import LibreKDE.Credentials.Scrim
import LibreKDE.Credentials.Mutation
import LibreKDE.Credentials.Rows
import LibreKDE.Credentials.Relist
import LibreKDE.Credentials.Latch
import LibreKDE.Credentials.AtHome
import LibreKDE.Kio.Spelling
import LibreKDE.Kio.Emission
import LibreKDE.Kio.LineShapes
import LibreKDE.Kio.AgentCardDataSource
import LibreKDE.Signing.CardSelection
import LibreKDE.Signing.Outcome
import LibreKDE.Purpose.SignPurposeJob
import LibreKDE.Plasmoid.Scrub
import LibreKDE.Plasmoid.CardIo
import LibreKDE.Plasmoid.BoundReader
import LibreKDE.Plasmoid.Reprompts
import LibreKDE.Plasmoid.ErrorMessages
import LibreKDE.Plasmoid.Custody
import LibreKDE.Plasmoid.SignIsolation
import LibreKDE.Plasmoid.Photos
import LibreKDE.Plasmoid.ConfigGeneral
import LibreKDE.Plasmoid.Panel
import LibreKDE.Plasmoid.CarriedThrough
import LibreKDE.Plasmoid.IdentityRows
import LibreKDE.Plasmoid.CardDetected
import LibreKDE.Clicks
import LibreKDE.Kio.Pem
import LibreKDE.Kio.Grammar
import LibreKDE.AgentClient.DisplayText
import LibreKDE.Plasmoid.ReaderUnits
import LibreKDE.Kio.Browse
