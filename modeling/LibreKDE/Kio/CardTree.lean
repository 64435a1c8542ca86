import LibreKDE.Kio.CardDataSource

/-!
# The `card:/` tree

A URL is resolved by its non-empty path segments and the cards present, and a directory's
children come from its card's capability bits.  Nothing here reads a card; the folders under
`PKI` are the worker's to fill in.
-/

namespace LibreKDE.Kio

/-- A URL, as far as the worker looks at it. -/
structure QUrl where
  path : QString
  toDisplayString : QString
  deriving DecidableEq, Repr

/-- `QUrl::fileName`: what follows the last slash of the path. -/
def QUrl.fileName (url : QUrl) : QString := (url.path.splitOn (qc '/')).getLastD []

/-- What a path resolves to: a directory, a leaf, or nothing. -/
inductive NodeKind
  | invalid | root | reader | identityDir | pkiDir | certDir | infoLeaf | identityLeaf
  | photoLeaf | certInfoLeaf | certDerLeaf | certPemLeaf
  deriving DecidableEq, Repr

/-- A node of the tree, with the reader and the card it lies under and, below `PKI`, the folder
segment as it was written in the URL. -/
structure CardNode where
  kind : NodeKind := .invalid
  readerName : QString := []
  certFolder : QString := []
  presence : CardPresence := {}
  deriving DecidableEq, Repr

namespace CardTree

/-! ## Names -/

/-- The card's own leaf, in the reader's directory. -/
def infoTxt : QString := qs "info.txt"
/-- The directory of a card with identity data. -/
def identityDirName : QString := qs "Identity"
/-- The directory of a card with certificates. -/
def pkiDirName : QString := qs "PKI"
/-- The identity leaf. -/
def identityTxt : QString := qs "identity.txt"
/-- The photo leaf, less its extension. -/
def photoNodeName : QString := qs "photo"
/-- The text leaf of a certificate's folder. -/
def certInfoTxt : QString := qs "info.txt"
/-- The binary export. -/
def certDerName : QString := qs "certificate.der"
/-- The armoured export. -/
def certPemName : QString := qs "certificate.pem"

/-- The extension follows from the card's kind, since nothing has been read yet: a travel document's
photo is JPEG 2000, any other card's a JPEG. -/
def photoLeafName (caps : Capabilities) : QString :=
  photoNodeName ++ if caps.emrtdCrypto then qs ".jp2" else qs ".jpg"

/-- The two leaves of an identity directory. -/
def identityChildren (caps : Capabilities) : List QString := [identityTxt, photoLeafName caps]

/-! ## Resolution -/

/-- The non-empty path segments; a doubled slash or one at the end makes no difference to them. -/
def segments (url : QUrl) : List QString :=
  (url.path.splitOn (qc '/')).filter fun s => s ≠ []

/-- The node a path below a present reader's segment leads to.  A directory exists by its card's
capability, and the folders under `PKI` are not checked: any segment names one. -/
def resolveBelow (p : CardPresence) (below : List QString) : CardNode :=
  let node (kind : NodeKind) : CardNode :=
    { kind := kind, readerName := p.readerName, presence := p }
  let certNode (kind : NodeKind) (folder : QString) : CardNode :=
    { node kind with certFolder := folder }
  match below with
  | [] => node .reader
  | s1 :: rest =>
      if rest = [] ∧ s1 = infoTxt then node .infoLeaf
      else if s1 = identityDirName ∧ p.capabilities.identityData then
        match rest with
        | [] => node .identityDir
        | [s2] =>
            if s2 = identityTxt then node .identityLeaf
            else if s2 = photoLeafName p.capabilities then node .photoLeaf
            else {}
        | _ => {}
      else if s1 = pkiDirName ∧ p.capabilities.pki then
        match rest with
        | [] => node .pkiDir
        | [folder] => certNode .certDir folder
        | [folder, leaf] =>
            if leaf = certInfoTxt then certNode .certInfoLeaf folder
            else if leaf = certDerName then certNode .certDerLeaf folder
            else if leaf = certPemName then certNode .certPemLeaf folder
            else {}
        | _ => {}
      else {}

section Source

variable {σ : Type} (d : CardDataSource σ)

/-- The first card present under a reader's name; of two readers of one name the second has no
address of its own. -/
def presenceFor (name : QString) : WorkerM σ (Option CardPresence) := do
  let present ← listReadersWithCards d
  return present.find? fun p => p.readerName = name

/-- The node a URL leads to.  The root is there whoever is present; anything below it needs its
reader to hold a card at this moment. -/
def resolve (url : QUrl) : WorkerM σ CardNode := do
  match segments url with
  | [] => return { kind := .root }
  | s0 :: below =>
      match ← presenceFor d s0 with
      | none => return {}
      | some p => return resolveBelow p below

/-- The child names of a directory, by the cards present.  Of the folders under `PKI` it knows
nothing, nor of what is in them. -/
def list (url : QUrl) : WorkerM σ (List QString) := do
  match segments url with
  | [] => return (← listReadersWithCards d).map CardPresence.readerName
  | s0 :: below =>
      match ← presenceFor d s0 with
      | none => return []
      | some p =>
          match below with
          | [] =>
              return [infoTxt] ++ (if p.capabilities.identityData then [identityDirName] else []) ++
                (if p.capabilities.pki then [pkiDirName] else [])
          | [s1] =>
              if s1 = identityDirName ∧ p.capabilities.identityData then
                return identityChildren p.capabilities
              else return []
          | _ => return []

end Source

end CardTree

end LibreKDE.Kio
