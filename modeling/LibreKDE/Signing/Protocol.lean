import LibreKDE.Signing.SignJob

/-!
# What a signing job promises

`Protocol` says in the job's own terms what holds of it at every moment: it reports once and
not before nothing of it is outstanding, it asks the card for at most one signature, and that
request names a certificate that an `Ok` read listed and a format and a packaging that follow
from the job's input.  `Listing` is what an observer writes down of that read.

The proof goes by the `Phase` the job is in.  Each phase fixes what the job still waits for,
and `Job` adds what it has asked so far.  A slot passes through the phase `acting`, in which
nothing is awaited, and leaves it by exactly one of four doors: it fails, succeeds, queues a
hop or mints an operation.
-/

namespace LibreKDE.Signing

open Reactive

/-! ## Formats -/

/-- The word for a format, in the agent's vocabulary. -/
def formatWord : SignatureFormat → QString
  | .pades => qs "pades"
  | .cades => qs "cades"
  | .xades => qs "xades"
  | .jades => qs "jades"
  | .asice => qs "asice"

/-- The five-word vocabulary, read backwards. -/
def formatNamed (word : QString) : Option SignatureFormat :=
  [.pades, .cades, .xades, .jades, .asice].find? fun f => formatWord f = word

/-- The packaging that goes with a format: PAdES is put into the document, the others beside it. -/
def packagingOf (f : SignatureFormat) : Packaging :=
  if f = .pades then .enveloped else .detached

lemma packagingOf_eq_enveloped {f : SignatureFormat} : packagingOf f = .enveloped ↔ f = .pades := by
  cases f <;> decide

/-- The format a job is asked for: its override's, or else the one its type stands for. -/
def SignJob.wanted (h : SignHost) (s : SignJob) : Option SignatureFormat :=
  formatNamed (if s.formatOverride = [] then (MimeFormatMap.resolve (s.mime h)).format
    else s.formatOverride)

lemma toSignOptions_eq (c : SignChoice) :
    toSignOptions c = (formatNamed c.format).map fun f =>
      ⟨f, if c.enveloped then .enveloped else .detached⟩ := by
  simp only [toSignOptions, formatNamed, formatWord, List.find?_cons, List.find?_nil, eq_comm]
  split_ifs <;> simp_all

/-- An enveloped choice is one whose format is `pades`. -/
lemma resolveChoice_enveloped (h : SignHost) (s : SignJob) :
    (s.resolveChoice h).enveloped = decide ((s.resolveChoice h).format = qs "pades") := by
  simp only [SignJob.resolveChoice, MimeFormatMap.resolve, MimeFormatMap.resolveFormat,
    SignChoice.enveloped]
  split_ifs with h₁ h₂ h₃ h₄ h₅ h₆
  · decide
  · decide
  · decide
  · decide
  · decide
  · decide
  · rw [decide_eq_false h₆]
    rfl

lemma formatNamed_eq_some {word : QString} {f : SignatureFormat} (hf : formatNamed word = some f) :
    formatWord f = word := by
  simpa using List.find?_some hf

/-- What `start` asks for is what the job wants, in the packaging that goes with it. -/
lemma toSignOptions_resolveChoice (h : SignHost) (s : SignJob) :
    toSignOptions (s.resolveChoice h) = (s.wanted h).map fun f => ⟨f, packagingOf f⟩ := by
  have hformat : (s.resolveChoice h).format =
      if s.formatOverride = [] then (MimeFormatMap.resolve (s.mime h)).format
      else s.formatOverride := by
    simp only [SignJob.resolveChoice, MimeFormatMap.resolveFormat]
    split_ifs with h₁ h₂
    · rfl
    · exact h₂.symm
    · rfl
  rw [toSignOptions_eq, resolveChoice_enveloped, hformat, SignJob.wanted]
  apply Option.map_congr
  intro f hf
  rw [← formatNamed_eq_some hf]
  cases f <;> decide

/-! ## What is promised -/

/-- A certificate read's signing-capable certificates, and the chooser's answer to them. -/
structure Listing where
  signing : List CertificateInfo
  answer : Option QString

/-- The certificate the listing settles on: the only one, or the chooser's. -/
def Listing.chosen (l : Listing) : Option QString :=
  match l.signing with
  | [c] => some c.id
  | _ => l.answer

/-- The record of the job's certificate read: what could sign, and what the chooser answered, noted
when the read ends in Ok. -/
def noteListing (l : Option Listing) (s : SignJob) : Event → Option Listing
  | .finished i t chooser _ =>
      if (s.client.ops i).connected ∧ (s.client.ops i).request = .readCertificates ∧
          t.status = .ok then
        some ⟨t.certificatesResult.filter fun c => c.signingCapable,
          if s.chooser then chooser.answer else none⟩
      else l
  | .start | .registry _ | .turn _ => l

/-- The job and the record of its certificate read. -/
def listingMachine (h : SignHost) : Machine (SignJob × Option Listing) Event :=
  (machine h).watch none noteListing

instance (h : SignHost) (s : SignJob) (e : Event) : Decidable ((machine h).allows s e) :=
  inferInstanceAs (Decidable (allows s e))

instance (h : SignHost) (x : SignJob × Option Listing) (e : Event) :
    Decidable ((listingMachine h).allows x e) :=
  inferInstanceAs (Decidable (allows x.1 e))

/-- Something of the job is still to come: an operation's terminal, or the queued hop. -/
def SignJob.Outstanding (s : SignJob) : Prop := (∃ i, s.client.Pending i) ∨ s.hops ≠ []

/-- The signature request the job minted under number `i`. -/
def SignJob.Signs (s : SignJob) (i : ℕ) (certId : QString) (options : SignOptions) : Prop :=
  i < s.client.minted ∧ (s.client.ops i).request = .sign certId options

/-- What holds of a job, constructed as `s₀`, at every moment. -/
structure Protocol (h : SignHost) (s₀ : SignJob) (x : SignJob × Option Listing) : Prop where
  /-- It reports at most once. -/
  atMostOnce : x.1.signals.length ≤ 1
  /-- Once nothing of it is outstanding it has reported. -/
  answered : x.1.started = true → ¬ x.1.Outstanding → x.1.signals.length = 1
  /-- It asks for at most one signature. -/
  signsOnce : ∀ i j certId certId' options options', x.1.Signs i certId options →
    x.1.Signs j certId' options' → i = j
  /-- The request names the certificate an `Ok` read settled on. -/
  signsListed : ∀ i certId options, x.1.Signs i certId options →
    ∃ l, x.2 = some l ∧ l.signing ≠ [] ∧ l.chosen = some certId
  /-- It asks for the format wanted, enveloped for PAdES and for nothing else. -/
  signsWanted : ∀ i certId options, x.1.Signs i certId options →
    s₀.wanted h = some options.format ∧
      (options.packaging = .enveloped ↔ options.format = .pades)
  /-- The output is named for the input, in the format and the packaging requested. -/
  names : ∀ n ∈ x.1.namesAsked, n.inputPath = s₀.inputPath ∧
    ∃ i certId, x.1.Signs i certId ⟨n.format, n.packaging⟩
  /-- A job with an unknown override mints nothing, and fails as it starts. -/
  refused : s₀.formatOverride ≠ [] → formatNamed s₀.formatOverride = none →
    x.1.client.minted = 0 ∧
      (x.1.started = true → ∃ message, x.1.signals = [.failed message])

/-- A step that asks for a signature asks the job's own card, which is there. -/
def SignsOnCard (h : SignHost) (s₀ s : SignJob) (e : Event) : Prop :=
  ∀ i certId options, ¬ s.Signs i certId options → (step h s e).Signs i certId options →
    ∃ c, s₀.card = some c ∧ s.card = some c ∧ s.client.registry.live c = true ∧
      ((step h s e).client.ops i).card = c

/-! ## Phases -/

/-- Where a job stands between two events, or inside a slot (`acting`). -/
inductive Phase
  | fresh | reading
  | deferred (certId : QString)
  | signing | reported | acting
  deriving DecidableEq

namespace Phase

/-- The number of the operation awaited. -/
def awaits : Phase → Option ℕ
  | .reading => some 0
  | .signing => some 1
  | .fresh | .deferred _ | .reported | .acting => none

/-- The hops queued. -/
def hops : Phase → List QString
  | .deferred certId => [certId]
  | .fresh | .reading | .signing | .reported | .acting => []

/-- How many operations may have been minted. -/
def Mints : Phase → ℕ → Prop
  | .fresh, n => n = 0
  | .reading, n => n = 1
  | .deferred _, n => n = 1
  | .signing, n => n = 2
  | .reported, n => n ≤ 2
  | .acting, n => n ≤ 2

end Phase

/-- A job, constructed as `s₀`, in a phase. -/
structure Job (h : SignHost) (s₀ : SignJob) (p : Phase) (s : SignJob) (l : Option Listing) :
    Prop where
  -- what it was constructed with
  inputPath : s.inputPath = s₀.inputPath
  mimeType : s.mimeType = s₀.mimeType
  formatOverride : s.formatOverride = s₀.formatOverride
  card : ∀ c, s.card = some c → s₀.card = some c ∧ s.client.registry.live c = true
  -- its control state
  started : s.started = decide (p ≠ .fresh)
  emitted : s.emitted = decide (p = .reported)
  reports : s.signals.length = if p = .reported then 1 else 0
  hops : s.hops = p.hops
  certOp : s.certOp = if p = .reading then some 0 else none
  signOp : s.signOp = if p = .signing then some 1 else none
  mints : p.Mints s.client.minted
  runs : ∀ i < s.client.minted, (s.client.ops i).ended = none ↔ p.awaits = some i
  listens : ∀ i, p.awaits = some i →
    (s.client.ops i).connected = true ∧ (s.client.ops i).destroyed = false
  -- what it has asked and reported
  reads : 0 < s.client.minted → (s.client.ops 0).request = .readCertificates
  wants : 0 < s.client.minted →
    ∃ f, s₀.wanted h = some f ∧ s.signOptions = ⟨f, packagingOf f⟩
  settled : ∀ certId ∈ s.hops,
    ∃ r, l = some r ∧ r.signing ≠ [] ∧ r.chosen = some certId
  signs : 1 < s.client.minted → ∃ certId, (s.client.ops 1).request = .sign certId s.signOptions ∧
    ∃ r, l = some r ∧ r.signing ≠ [] ∧ r.chosen = some certId
  names : ∀ n ∈ s.namesAsked, 1 < s.client.minted ∧ n = s.nameRequest
  succeeds : ∀ path, .succeeded path ∈ s.signals → 1 < s.client.minted

namespace Job

variable {h : SignHost} {s₀ s : SignJob} {p : Phase} {l : Option Listing}

lemma minted_of_awaits (hj : Job h s₀ p s l) {i : ℕ} (hi : p.awaits = some i) :
    i < s.client.minted := by
  have hm := hj.mints
  cases p with
  | reading =>
      obtain rfl : i = 0 := (Option.some.inj hi).symm
      have : s.client.minted = 1 := hm
      omega
  | signing =>
      obtain rfl : i = 1 := (Option.some.inj hi).symm
      have : s.client.minted = 2 := hm
      omega
  | fresh | deferred | reported | acting => cases hi

/-! ## The doors out of a slot -/

lemma fail (hj : Job h s₀ .acting s l) (message : QString) :
    Job h s₀ .reported (s.fail message) l := by
  have hemitted : s.emitted = false := hj.emitted
  have hnone : s.signals = [] := List.length_eq_zero_iff.1 hj.reports
  rw [SignJob.fail_eq hemitted hnone]
  exact { hj with emitted := rfl, reports := rfl, succeeds := by simp }

lemma succeed (hj : Job h s₀ .acting s l) (hsigned : 1 < s.client.minted) (path : QString) :
    Job h s₀ .reported (s.succeed path) l := by
  have hemitted : s.emitted = false := hj.emitted
  have hnone : s.signals = [] := List.length_eq_zero_iff.1 hj.reports
  rw [SignJob.succeed_eq hemitted hnone]
  exact { hj with emitted := rfl, reports := rfl, succeeds := fun _ _ => hsigned }

/-- Queue the hop for a certificate a read has settled on. -/
lemma defer (hj : Job h s₀ .acting s l) {certId : QString} (hread : s.client.minted = 1)
    (hl : ∃ r, l = some r ∧ r.signing ≠ [] ∧ r.chosen = some certId) :
    Job h s₀ (.deferred certId) (s.defer certId) l := by
  have hhops : s.hops = [] := hj.hops
  have heq : (s.defer certId).hops = [certId] := by simp [SignJob.defer, hhops]
  refine { hj with hops := heq, mints := hread, settled := fun id hid => ?_ }
  rw [heq, List.mem_singleton] at hid
  exact hid ▸ hl

/-- Ask for the certificates, for options that are the job's. -/
lemma mintRead (hj : Job h s₀ .acting s l) (hfirst : s.client.minted = 0) {c : CardRef}
    {f : SignatureFormat} (hf : s₀.wanted h = some f) (choice : SignChoice) :
    Job h s₀ .reading { s with
      choice := choice
      signOptions := ⟨f, packagingOf f⟩
      certOp := some s.client.minted
      client := s.client.mint c .readCertificates } l := by
  have hself : (s.client.mint c .readCertificates).ops 0 =
      { request := .readCertificates, card := c, connected := true } := by
    rw [← hfirst]
    exact s.client.mint_ops_self c .readCertificates
  have hone : (s.client.mint c .readCertificates).minted = 1 := by simp [hfirst]
  have hnot : ∀ {q : Prop}, 1 < (s.client.mint c .readCertificates).minted → q := by
    intro q hq
    omega
  have hbefore : ∀ {q : Prop}, 1 < s.client.minted → q := by
    intro q hq
    omega
  exact { hj with
    certOp := by rw [hfirst]; rfl
    mints := hone
    runs := by
      intro i hi
      obtain rfl : i = 0 := by
        show i = 0
        have : i < 1 := hone ▸ hi
        omega
      exact iff_of_true (by rw [hself]) rfl
    listens := by
      rintro i ⟨⟩
      exact ⟨by rw [hself], by rw [hself]⟩
    reads := fun _ => by rw [hself]
    wants := fun _ => ⟨f, hf, rfl⟩
    signs := fun h => hnot h
    names := fun n hn => hbefore (hj.names n hn).1
    succeeds := fun path hp => hbefore (hj.succeeds path hp) }

/-- Ask for the signature, on the certificate settled on. -/
lemma mintSign (hj : Job h s₀ .acting s l) (hread : s.client.minted = 1) {c : CardRef}
    {certId : QString} (hl : ∃ r, l = some r ∧ r.signing ≠ [] ∧ r.chosen = some certId) :
    Job h s₀ .signing { s with
      signOp := some s.client.minted
      client := s.client.mint c (.sign certId s.signOptions) } l := by
  have hself : (s.client.mint c (.sign certId s.signOptions)).ops 1 =
      { request := .sign certId s.signOptions, card := c, connected := true } := by
    rw [← hread]
    exact s.client.mint_ops_self c _
  have hzero : (s.client.mint c (.sign certId s.signOptions)).ops 0 = s.client.ops 0 :=
    Client.mint_ops_of_lt (by omega)
  have htwo : (s.client.mint c (.sign certId s.signOptions)).minted = 2 := by simp [hread]
  exact { hj with
    signOp := by rw [hread]; rfl
    mints := htwo
    runs := by
      intro i hi
      have hi' : i < 2 := htwo ▸ hi
      obtain rfl | rfl : i = 0 ∨ i = 1 := by omega
      · show ((s.client.mint c (.sign certId s.signOptions)).ops 0).ended = none ↔ _
        rw [hzero]
        simpa [Phase.awaits] using hj.runs 0 (by omega)
      · exact iff_of_true (by rw [hself]) rfl
    listens := by
      rintro i ⟨⟩
      exact ⟨by rw [hself], by rw [hself]⟩
    reads := by
      intro _
      show ((s.client.mint c (.sign certId s.signOptions)).ops 0).request = _
      rw [hzero]
      exact hj.reads (by omega)
    wants := fun _ => hj.wants (by omega)
    signs := fun _ => ⟨certId, by rw [hself], hl⟩
    names := fun n hn => ⟨by rw [htwo]; omega, (hj.names n hn).2⟩
    succeeds := fun path hp => by rw [htwo]; omega }

/-! ## The ways into a slot -/

/-- With the awaited operation's terminal every operation has ended. -/
lemma ended_of_awaits (hj : Job h s₀ p s l) {i j : ℕ} (hi : p.awaits = some i) (t : Terminal)
    (hlt : j < s.client.minted) : ((s.client.finish i t).ops j).ended ≠ none := by
  rw [Client.finish_ended]
  split_ifs with hij
  · simp
  · intro hrun
    have : some i = some j := hi.symm.trans ((hj.runs j hlt).1 hrun)
    exact hij (Option.some.inj this).symm

/-- The certificate read ends, and its slot starts. -/
lemma readEnds (hj : Job h s₀ .reading s l) (t : Terminal) (l' : Option Listing) :
    Job h s₀ .acting { s with
      certOp := none
      client := (s.client.finish 0 t).deleteLater 0 } l' := by
  have hone : s.client.minted = 1 := hj.mints
  have hhops : s.hops = [] := hj.hops
  exact { hj with
    certOp := rfl
    mints := by
      show s.client.minted ≤ 2
      omega
    runs := fun j hj' => by
      simpa [Phase.awaits] using hj.ended_of_awaits (i := 0) rfl t hj'
    listens := by simp [Phase.awaits]
    reads := fun hpos => by simpa using hj.reads hpos
    settled := by simp [hhops]
    signs := fun htwo => by
      have : 1 < s.client.minted := htwo
      omega }

/-- The signature ends, and its slot starts. -/
lemma signEnds (hj : Job h s₀ .signing s l) (t : Terminal) :
    Job h s₀ .acting { s with
      signOp := none
      client := (s.client.finish 1 t).deleteLater 1 } l := by
  have htwo : s.client.minted = 2 := hj.mints
  exact { hj with
    signOp := rfl
    mints := by
      show s.client.minted ≤ 2
      omega
    runs := fun j hj' => by
      simpa [Phase.awaits] using hj.ended_of_awaits (i := 1) rfl t hj'
    listens := by simp [Phase.awaits]
    reads := fun hpos => by simpa using hj.reads hpos
    signs := fun hsign => by simpa using hj.signs hsign }

/-- The queued hop runs. -/
lemma hopRuns {certId : QString} (hj : Job h s₀ (.deferred certId) s l) :
    Job h s₀ .acting { s with hops := [] } l := by
  have hone : s.client.minted = 1 := hj.mints
  exact { hj with
    hops := rfl
    mints := by
      show s.client.minted ≤ 2
      omega
    settled := by simp }

/-- `start` is called. -/
lemma starts (hj : Job h s₀ .fresh s l) : Job h s₀ .acting { s with started := true } l := by
  have hzero : s.client.minted = 0 := hj.mints
  exact { hj with
    started := rfl
    mints := by
      show s.client.minted ≤ 2
      omega }

/-- The registry moves without taking the awaited operation along. -/
lemma setRegistry (hj : Job h s₀ p s l) (r : Registry)
    (hlive : ∀ i, p.awaits = some i → r.live (s.client.ops i).card = true) :
    Job h s₀ p (s.setRegistry r) l :=
  { hj with
    card := by
      intro c hc
      obtain ⟨hcard, hr⟩ := Option.filter_eq_some_iff.1 hc
      exact ⟨(hj.card c hcard).1, hr⟩
    listens := by
      intro i hi
      -- The client destroys an operation with its card; the one awaited has a live card by the
      -- guard.
      obtain ⟨hconn, halive⟩ := hj.listens i hi
      refine ⟨hconn, ?_⟩
      show ((s.client.setRegistry r).ops i).destroyed = false
      simp [halive, hlive i hi] }

/-- Nothing is awaited in a slot, so the registry may move as it likes. -/
lemma setRegistries (hj : Job h s₀ .acting s l) (rs : List Registry) :
    Job h s₀ .acting (s.setRegistries rs) l := by
  induction rs generalizing s with
  | nil => exact hj
  | cons r rs ih => exact ih (hj.setRegistry r (by simp [Phase.awaits]))

/-! ## Slots -/

/-- The job rests in a phase between two events. -/
def Rests (h : SignHost) (s₀ s : SignJob) (l : Option Listing) : Prop :=
  ∃ p, p ≠ .acting ∧ Job h s₀ p s l

lemma fails (hj : Job h s₀ .acting s l) (message : QString) : Rests h s₀ (s.fail message) l :=
  ⟨.reported, by decide, hj.fail message⟩

lemma defers (hj : Job h s₀ .acting s l) {certId : QString} (hread : s.client.minted = 1)
    (hl : ∃ r, l = some r ∧ r.signing ≠ [] ∧ r.chosen = some certId) :
    Rests h s₀ (s.defer certId) l :=
  ⟨.deferred certId, by simp, hj.defer hread hl⟩

/-- The chooser's answer is queued; without one the job fails. -/
lemma chooses (hread : s.client.minted = 1) {signing : List CertificateInfo} {run : ChooserRun}
    (hmany : 1 < signing.length)
    (hj : Job h s₀ .acting s (some ⟨signing, if s.chooser then run.answer else none⟩)) :
    Rests h s₀ (s.choose h run) (some ⟨signing, if s.chooser then run.answer else none⟩) := by
  have hne : signing ≠ [] := List.ne_nil_of_length_pos (by omega)
  cases hchooser : s.chooser with
  | false =>
      have heq : s.choose h run = s.failWith h
          (qs "@info:status user cancelled the certificate chooser")
          (qs "Signing was cancelled.") [] := by
        simp [SignJob.choose, hchooser]
      rw [heq, ← hchooser]
      exact hj.fails _
  | true =>
      -- The dialog runs its own event loop, and the registry may change under it.
      have hj' := hj.setRegistries run.during
      rw [hchooser] at hj'
      cases hanswer : run.answer with
      | none =>
          have heq : s.choose h run = (s.setRegistries run.during).failWith h
              (qs "@info:status user cancelled the certificate chooser")
              (qs "Signing was cancelled.") [] := by
            simp [SignJob.choose, hchooser, hanswer]
          rw [heq]
          rw [hanswer] at hj'
          exact hj'.fails _
      | some certId =>
          have heq : s.choose h run = (s.setRegistries run.during).defer certId := by
            simp [SignJob.choose, hchooser, hanswer]
          have hminted : (s.setRegistries run.during).client.minted = 1 := by
            rw [s.setRegistries_minted, hread]
          have hchosen : Listing.chosen ⟨signing, some certId⟩ = some certId := by
            match signing, hmany with
            | _ :: _ :: _, _ => rfl
          rw [heq]
          rw [hanswer] at hj'
          exact hj'.defers hminted ⟨_, rfl, hne, hchosen⟩

/-- After an `Ok` read the job fails, or queues the hop for the certificate settled on. -/
lemma settlesOn (hread : s.client.minted = 1) {signing : List CertificateInfo} {run : ChooserRun}
    (hj : Job h s₀ .acting s (some ⟨signing, if s.chooser then run.answer else none⟩)) :
    Rests h s₀ (s.settleOn h signing run)
      (some ⟨signing, if s.chooser then run.answer else none⟩) := by
  match signing with
  | [] => exact hj.fails _
  | [c] => exact hj.defers hread ⟨_, rfl, by simp, rfl⟩
  | c :: d :: rest => exact hj.chooses hread (by simp)

/-- The certificate read's slot. -/
lemma certificatesFinished (hj : Job h s₀ .reading s l) (t : Terminal) (run : ChooserRun)
    (write : WriteRun) :
    Rests h s₀ (s.finished h 0 t run write) (noteListing l s (.finished 0 t run write)) := by
  have hconn : (s.client.ops 0).connected = true := (hj.listens 0 rfl).1
  have hone : s.client.minted = 1 := hj.mints
  have hreq : (s.client.ops 0).request = .readCertificates := hj.reads (by omega)
  have hcert : s.certOp = some 0 := hj.certOp
  have hends := hj.readEnds t (noteListing l s (.finished 0 t run write))
  simp only [SignJob.finished, hconn, hreq, if_true, SignJob.onCertificatesFinished, hcert]
  -- Only an Ok read lists certificates; any other status fails the job with its message.
  by_cases hok : t.status = .ok
  · rw [if_neg (not_not.2 hok)]
    rw [noteListing, if_pos ⟨hconn, hreq, hok⟩] at hends ⊢
    exact settlesOn (by simp [hone]) hends
  · rw [if_pos hok]
    exact hends.fails _

/-- A write that failed is reported. -/
lemma writeFails (hj : Job h s₀ .acting s l) (error : SignedFileError) (lastName : QString) :
    Rests h s₀ (s.failWrite h error lastName) l := by
  cases error with
  | unreadableArtifact => exact hj.fails _
  | noFreeName => exact hj.fails _
  | emptyArtifact => exact hj.fails _
  | writeFailed => exact hj.fails _

/-- The names asked for go with the request. -/
lemma asksNames (hj : Job h s₀ .acting s l) (hsigned : 1 < s.client.minted) (ns : List QString) :
    Job h s₀ .acting { s with
      namesAsked := s.namesAsked ++ ns.map fun _ => s.nameRequest } l :=
  { hj with
    names := by
      intro n hn
      rcases List.mem_append.1 hn with hold | hnew
      · exact hj.names n hold
      · obtain ⟨_, -, rfl⟩ := List.mem_map.1 hnew
        exact ⟨hsigned, rfl⟩ }

/-- The artifact is written, or the failure reported. -/
lemma writesOut (hj : Job h s₀ .acting s l) (hsigned : 1 < s.client.minted) (run : WriteRun) :
    Rests h s₀ (s.writeOut h run) l := by
  have hnames := hj.asksNames hsigned run.names
  unfold SignJob.writeOut
  cases run.result with
  | error error => exact hnames.writeFails error _
  | ok path => exact ⟨.reported, by decide, hnames.succeed hsigned path⟩

/-- The signature's slot. -/
lemma signFinished (hj : Job h s₀ .signing s l) (t : Terminal) (run : ChooserRun)
    (write : WriteRun) :
    Rests h s₀ (s.finished h 1 t run write) (noteListing l s (.finished 1 t run write)) := by
  have hconn : (s.client.ops 1).connected = true := (hj.listens 1 rfl).1
  have htwo : s.client.minted = 2 := hj.mints
  obtain ⟨certId, hreq, -⟩ := hj.signs (by omega)
  have hsign : s.signOp = some 1 := hj.signOp
  have hends := hj.signEnds t
  have hmeta : Job h s₀ .acting { s with
      signOp := none
      client := (s.client.finish 1 t).deleteLater 1
      signMeta := t.signMeta } l := { hends with }
  have hnote : noteListing l s (.finished 1 t run write) = l := by simp [noteListing, hreq]
  rw [hnote]
  simp only [SignJob.finished, hconn, hreq, if_true, reduceCtorEq, if_false,
    SignJob.onSignFinished, hsign]
  split_ifs with hok hvalid
  · exact hends.fails _
  · exact hmeta.writesOut (by simp [htwo]) write
  · exact hmeta.fails _

/-- The card is asked for the signature, or the failure reported. -/
lemma beginsSign {certId : QString} (hj : Job h s₀ .acting s l) (hread : s.client.minted = 1)
    (hl : ∃ r, l = some r ∧ r.signing ≠ [] ∧ r.chosen = some certId) (opens : Bool) :
    Rests h s₀ (s.beginSign h certId opens) l := by
  unfold SignJob.beginSign
  split
  · exact hj.fails _
  · split_ifs with hopens
    · exact ⟨.signing, by decide, hj.mintSign hread hl⟩
    · exact hj.fails _

/-- The queued hop's slot. -/
lemma turns {certId : QString} (hj : Job h s₀ (.deferred certId) s l) (opens : Bool) :
    Rests h s₀ (s.turn h opens) l := by
  have hhops : s.hops = [certId] := hj.hops
  have hone : s.client.minted = 1 := hj.mints
  have hl := hj.settled certId (by simp [hhops])
  have heq : s.turn h opens = SignJob.beginSign h { s with hops := [] } certId opens := by
    simp [SignJob.turn, hhops]
  rw [heq]
  exact hj.hopRuns.beginsSign hone hl opens

/-- The certificates are asked for, or the failure reported. -/
lemma startsOn (hj : Job h s₀ .acting s l) (hfirst : s.client.minted = 0) (c : CardRef) :
    Rests h s₀ (s.startOn h c) l := by
  -- The format wanted depends on nothing but what the caller set before start().
  have hwanted : s.wanted h = s₀.wanted h := by
    simp only [SignJob.wanted, SignJob.mime, hj.formatOverride, hj.mimeType, hj.inputPath]
  have hoptions := toSignOptions_resolveChoice h s
  rw [hwanted] at hoptions
  have hchoice : Job h s₀ .acting { s with choice := s.resolveChoice h } l := { hj with }
  unfold SignJob.startOn
  cases hw : s₀.wanted h with
  | none =>
      rw [hw, Option.map_none] at hoptions
      simp only [hoptions]
      exact hchoice.fails _
  | some f =>
      rw [hw, Option.map_some] at hoptions
      simp only [hoptions]
      exact ⟨.reading, by decide, hj.mintRead hfirst hw _⟩

/-- The slot of `start`. -/
lemma startRuns (hj : Job h s₀ .fresh s l) : Rests h s₀ (s.start h) l := by
  have hzero : s.client.minted = 0 := hj.mints
  have hact := hj.starts
  unfold SignJob.start
  simp only
  split
  · exact hact.fails _
  · next c _ =>
      split_ifs with hpki
      · exact hact.startsOn hzero c
      · exact hact.fails _

/-! ## Runs -/

/-- A terminal comes in the phase that awaits it. -/
lemma finished_phase (hj : Job h s₀ p s l) {i : ℕ} {t : Terminal} {run : ChooserRun}
    {write : WriteRun} (hal : allows s (.finished i t run write)) :
    p = .reading ∧ i = 0 ∨ p = .signing ∧ i = 1 := by
  obtain ⟨hlt, -, hrun⟩ := hal
  have hi := (hj.runs i hlt).1 hrun
  cases p with
  | reading => exact .inl ⟨rfl, (Option.some.inj hi).symm⟩
  | signing => exact .inr ⟨rfl, (Option.some.inj hi).symm⟩
  | fresh | deferred | reported | acting => cases hi

/-- Every event the environment may send takes a resting job to a resting job. -/
lemma Rests.step (hr : Rests h s₀ s l) {e : Event} (hal : allows s e) :
    Rests h s₀ (step h s e) (noteListing l s e) := by
  obtain ⟨p, hp, hj⟩ := hr
  cases e with
  | start =>
      have hfresh : p = .fresh := by
        have hstarted := hj.started
        rw [show s.started = false from hal] at hstarted
        simpa using hstarted.symm
      subst hfresh
      exact hj.startRuns
  | registry r =>
      refine ⟨p, hp, hj.setRegistry r fun i hi => ?_⟩
      -- The operation awaited is still running, so by the guard its card survives the change.
      have hlt : i < s.client.minted := hj.minted_of_awaits hi
      obtain ⟨hconn, halive⟩ := hj.listens i hi
      exact hal i hlt ⟨hlt, hconn, halive, (hj.runs i hlt).2 hi⟩
  | finished i t chooser write =>
      rcases hj.finished_phase hal with ⟨rfl, rfl⟩ | ⟨rfl, rfl⟩
      · exact hj.certificatesFinished t chooser write
      · exact hj.signFinished t chooser write
  | turn opens =>
      have hhops := hj.hops
      cases p with
      | deferred certId => exact hj.turns opens
      | fresh | reading | signing | reported | acting => exact absurd hhops hal

end Job

lemma Start.rests (h : SignHost) {s : SignJob} (hs : Start s) : Job.Rests h s s none :=
  ⟨.fresh, by decide,
    { inputPath := rfl
      mimeType := rfl
      formatOverride := rfl
      card := fun c hc => ⟨hc, hs.card c hc⟩
      started := hs.started
      emitted := hs.emitted
      reports := by simp [hs.signals]
      hops := hs.hops
      certOp := hs.certOp
      signOp := hs.signOp
      mints := hs.minted
      runs := fun i hi => absurd hi (by simp [hs.minted])
      listens := by simp [Phase.awaits]
      reads := by simp [hs.minted]
      wants := by simp [hs.minted]
      settled := by simp [hs.hops]
      signs := by simp [hs.minted]
      names := by simp [hs.namesAsked]
      succeeds := by simp [hs.signals] }⟩

/-! ## The protocol -/

namespace Job

variable {h : SignHost} {s₀ s : SignJob} {p : Phase} {l : Option Listing}

/-- Every signature request is the second operation. -/
lemma eq_one_of_signs (hj : Job h s₀ p s l) {i : ℕ} {certId : QString} {options : SignOptions}
    (hi : s.Signs i certId options) : i = 1 := by
  obtain ⟨hlt, hreq⟩ := hi
  have htwo : s.client.minted ≤ 2 := by
    have hm := hj.mints
    cases p <;> simp only [Phase.Mints] at hm <;> omega
  obtain rfl | rfl : i = 0 ∨ i = 1 := by omega
  · rw [hj.reads (by omega)] at hreq
    cases hreq
  · rfl

/-- The signature request is for the options settled at the start, on the certificate
settled on by the read. -/
lemma signs_eq (hj : Job h s₀ p s l) {i : ℕ} {certId : QString} {options : SignOptions}
    (hi : s.Signs i certId options) :
    options = s.signOptions ∧ ∃ r, l = some r ∧ r.signing ≠ [] ∧ r.chosen = some certId := by
  obtain rfl := hj.eq_one_of_signs hi
  obtain ⟨hlt, hreq⟩ := hi
  obtain ⟨certId', hreq', hl⟩ := hj.signs hlt
  rw [hreq'] at hreq
  cases hreq
  exact ⟨rfl, hl⟩

/-- A started job with nothing outstanding has reported. -/
lemma eq_reported (hj : Job h s₀ p s l) (hp : p ≠ .acting) (hstarted : s.started = true)
    (hout : ¬ s.Outstanding) : p = .reported := by
  have hawait : ∀ i, p.awaits ≠ some i := by
    intro i hi
    have hlt := hj.minted_of_awaits hi
    obtain ⟨hconn, halive⟩ := hj.listens i hi
    exact hout (.inl ⟨i, hlt, hconn, halive, (hj.runs i hlt).2 hi⟩)
  have hhops : p.hops = [] := by
    rw [← hj.hops]
    by_contra hne
    exact hout (.inr hne)
  cases p with
  | fresh => simp [hj.started] at hstarted
  | reading => exact absurd rfl (hawait 0)
  | deferred certId => cases hhops
  | signing => exact absurd rfl (hawait 1)
  | reported => rfl
  | acting => exact absurd rfl hp

/-- An override outside the vocabulary keeps a job from minting anything. -/
lemma minted_eq_zero (hj : Job h s₀ p s l) (hnone : s₀.wanted h = none) :
    s.client.minted = 0 := by
  by_contra hpos
  obtain ⟨f, hf, -⟩ := hj.wants (by omega)
  rw [hnone] at hf
  cases hf

/-- Such a job has failed if it was started. -/
lemma failed_of_minted_eq_zero (hj : Job h s₀ p s l) (hp : p ≠ .acting)
    (hzero : s.client.minted = 0) (hstarted : s.started = true) :
    ∃ message, s.signals = [.failed message] := by
  have hrep : p = .reported := by
    have hm := hj.mints
    cases p with
    | fresh => simp [hj.started] at hstarted
    | reported => rfl
    | acting => exact absurd rfl hp
    | reading | deferred | signing =>
        simp only [Phase.Mints] at hm
        omega
  subst hrep
  obtain ⟨signal, hsignal⟩ := List.length_eq_one_iff.1 hj.reports
  -- A success would need the sign, which is the second operation minted.
  cases signal with
  | succeeded path =>
      have := hj.succeeds path (by simp [hsignal])
      omega
  | failed message => exact ⟨message, hsignal⟩

lemma Rests.protocol (hr : Rests h s₀ s l) : Protocol h s₀ (s, l) := by
  obtain ⟨p, hp, hj⟩ := hr
  have hsigns : ∀ i certId options, s.Signs i certId options → 1 < s.client.minted := by
    intro i certId options hi
    obtain rfl := hj.eq_one_of_signs hi
    exact hi.1
  exact {
    atMostOnce := by
      show s.signals.length ≤ 1
      rw [hj.reports]
      split_ifs <;> decide
    answered := by
      intro hstarted hout
      obtain rfl := hj.eq_reported hp hstarted hout
      exact hj.reports
    signsOnce := by
      intro i j _ _ _ _ hi hj'
      rw [hj.eq_one_of_signs hi, hj.eq_one_of_signs hj']
    signsListed := by
      intro i certId options hi
      exact (hj.signs_eq hi).2
    signsWanted := by
      intro i certId options hi
      obtain ⟨f, hf, hoptions⟩ := hj.wants (by have := hsigns i certId options hi; omega)
      obtain ⟨rfl, -⟩ := hj.signs_eq hi
      rw [hoptions]
      exact ⟨hf, packagingOf_eq_enveloped⟩
    names := by
      intro n hn
      obtain ⟨hsigned, rfl⟩ := hj.names n hn
      obtain ⟨certId, hreq, -⟩ := hj.signs hsigned
      exact ⟨hj.inputPath, 1, certId, hsigned, hreq⟩
    -- No format word, so no operation at all: the only way left to report is to fail.
    refused := by
      intro hoverride hword
      have hnone : s₀.wanted h = none := by
        rw [SignJob.wanted, if_neg hoverride]
        exact hword
      have hzero := hj.minted_eq_zero hnone
      exact ⟨hzero, hj.failed_of_minted_eq_zero hp hzero⟩ }

/-- Only the queued hop asks for a signature, and it looks at the card first. -/
lemma Rests.signsOnCard (hr : Rests h s₀ s l) {e : Event} (hal : allows s e) :
    SignsOnCard h s₀ s e := by
  obtain ⟨p, hp, hj⟩ := hr
  intro i certId options hbefore hafter
  have hasked : ∀ {s' : SignJob}, s'.asked = s.asked → ¬ s'.Signs i certId options := by
    intro s' heq hi
    apply hbefore
    have hi' : i < s'.asked.1 ∧ s'.asked.2 i = .sign certId options := hi
    rw [heq] at hi'
    exact hi'
  cases e with
  | start =>
      obtain ⟨p', -, hj'⟩ := Rests.step ⟨p, hp, hj⟩ hal
      -- start() mints at most the read, number 0, so no sign appears in it.
      have hone : i = 1 := hj'.eq_one_of_signs hafter
      have hlt : i < (s.start h).client.minted := hafter.1
      have hle := SignJob.start_minted_le h s
      have hzero : s.client.minted = 0 := by
        have hstarted := hj.started
        rw [show s.started = false from hal] at hstarted
        have hfresh : p = .fresh := by simpa using hstarted.symm
        subst hfresh
        exact hj.mints
      omega
  | registry r => exact absurd hafter (hasked rfl)
  | finished j t chooser write =>
      exact absurd hafter (hasked (s.finished_asked h j t chooser write))
  | turn opens =>
      rcases s.turn_cases h opens with heq | ⟨c, id, hcard, hclient⟩
      · exact absurd hafter (hasked (by rw [SignJob.asked, Signing.step, heq]; rfl))
      · obtain ⟨hown, hlive⟩ := hj.card c hcard
        refine ⟨c, hown, hcard, hlive, ?_⟩
        obtain ⟨hlt, hreq⟩ := hafter
        show ((s.turn h opens).client.ops i).card = c
        simp only [Signing.step, hclient, Client.mint_minted] at hlt hreq ⊢
        have hi : i = s.client.minted := by
          by_contra hne
          have hold : i < s.client.minted := by omega
          rw [Client.mint_ops_of_lt hold] at hreq
          exact hbefore ⟨hold, hreq⟩
        rw [hi, Client.mint_ops_self]

end Job

/-- **The signing protocol.**  A job keeps to its protocol in every state of every run, and
no step asks for a signature but on its own card, while it is there. -/
theorem job_protocol (h : SignHost) {s : SignJob} {es : List Event} (hs : Start s)
    (ha : (machine h).Admits s es) :
    (listingMachine h).Always (Protocol h s) (s, none) es ∧
      (machine h).EachStep (SignsOnCard h s) s es := by
  have hkept : (listingMachine h).Kept fun x => Job.Rests h s x.1 x.2 :=
    fun _ _ hr hal => hr.step hal
  have hadmits : (listingMachine h).Admits (s, none) es := Machine.admits_watch.2 ha
  refine ⟨(hkept.always (hs.rests h) hadmits).mono fun _ hr => hr.protocol, ?_⟩
  have hsteps : (listingMachine h).EachStep (fun x e => SignsOnCard h s x.1 e) (s, none) es :=
    hkept.eachStep (hs.rests h) hadmits fun _ _ hr hal => hr.signsOnCard hal
  exact Machine.eachStep_watch.1 hsteps

/-- A job for a file on a national identity card, with a chooser. -/
def SignJob.forFile : SignJob where
  client := { registry := .desk (qs "r") 1 (.eid true) }
  card := some 1
  inputPath := qs "/home/user/contract.pdf"

lemma start_forFile : Start SignJob.forFile where
  minted := rfl
  card := by
    intro c hc
    obtain rfl : 1 = c := Option.some.inj hc
    decide
  certOp := rfl
  signOp := rfl
  emitted := rfl
  started := rfl
  hops := rfl
  signals := rfl
  namesAsked := rfl

/-- Two certificates, the second one chosen, and a signature written. -/
def signed : List Event :=
  [.start,
    .finished 0
      { certificatesResult :=
          [{ id := qs "a", signingCapable := true }, { id := qs "b", signingCapable := true }] }
      { answer := some (qs "b") } {},
    .turn true,
    .finished 1 { artifactValid := true } {}
      { names := [qs "/home/user/contract-signed.pdf"]
        result := .ok (qs "/home/user/contract-signed.pdf") }]

theorem job_protocol_signed :
    ((machine .plain).exec SignJob.forFile signed).signals =
        [.succeeded (qs "/home/user/contract-signed.pdf")] ∧
      (listingMachine .plain).Always (Protocol .plain SignJob.forFile)
        (SignJob.forFile, none) signed ∧
      (machine .plain).EachStep (SignsOnCard .plain SignJob.forFile) SignJob.forFile signed :=
  ⟨by decide, job_protocol .plain start_forFile (by decide)⟩

end LibreKDE.Signing
