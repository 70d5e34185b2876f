import Grimoire.Session
import Grimoire.Settings.Document
import Grimoire.Proofs.Run.Calculus
import Grimoire.Proofs.Call.Agenda
import Grimoire.Proofs.Call.Counts
import Grimoire.Proofs.Call.Relaxing
import Grimoire.Proofs.Call.Termination
import Grimoire.Proofs.Run.Strikes
import Grimoire.Proofs.Run.Outward
import Grimoire.Proofs.World.Numbering
import Grimoire.Proofs.Call.Account
import Grimoire.Proofs.Number.Neutral
import Grimoire.Proofs.World.Sheets
import Grimoire.Proofs.Run.Ledger
import Grimoire.Proofs.Run.Stacks
import Grimoire.Proofs.Call.Ledger
import Grimoire.Proofs.Number.Exact
import Grimoire.Proofs.Run.Grants
import Grimoire.Proofs.Call.Grants
import Grimoire.Proofs.Call.Validity
import Grimoire.Proofs.Number.Order
import Grimoire.Proofs.Expression.Outcomes
import Grimoire.Proofs.Expression.Finite
import Grimoire.Proofs.Expression.Safety
import Grimoire.Proofs.Run.Boosts
import Grimoire.Proofs.Effect.Parts
import Grimoire.Proofs.Run.Pools
import Grimoire.Proofs.Run.Literal
import Grimoire.Proofs.Call.Origin
import Grimoire.Proofs.Call.Literal
import Grimoire.Proofs.Call.Participants
import Grimoire.Proofs.Expression.Sandbox
import Grimoire.Proofs.Call.Names
import Grimoire.Proofs.Number.Rounding
import Grimoire.Proofs.Run.Vitality
import Grimoire.Proofs.Call.Vitality
import Grimoire.Proofs.World.Lapse
import Grimoire.Proofs.World.Statuses
import Grimoire.Proofs.World.Bounds
import Grimoire.Proofs.Call.Confinement
import Grimoire.Proofs.Expression.Seedless
import Grimoire.Proofs.Run.Seedless
import Grimoire.Proofs.Call.Seedless
import Grimoire.Proofs.Number.Ceiling
import Grimoire.Proofs.World.Timed
import Grimoire.Proofs.World.Lasting
import Grimoire.Proofs.World.Advance
import Grimoire.Proofs.Run.Timed
import Grimoire.Proofs.Call.Timed
import Grimoire.Proofs.Json.Token
import Grimoire.Proofs.Json.Legible
import Grimoire.Proofs.Json.Record
import Grimoire.Proofs.Settings.Identifier
import Grimoire.Proofs.Expression.Path
import Grimoire.Proofs.Expression.Check
import Grimoire.Proofs.Expression.Document
import Grimoire.Proofs.Target.Document
import Grimoire.Proofs.Effect.Document
import Grimoire.Proofs.Effect.Decoding
import Grimoire.Proofs.Effect.RoundTrip
import Grimoire.Proofs.Call.Chronicle
import Grimoire.Proofs.Run.Leaves
import Grimoire.Proofs.Run.Indifferent
import Grimoire.Proofs.Call.Deferral
import Grimoire.Proofs.Number.Contagion
import Grimoire.Proofs.Target.Candidates
import Grimoire.Proofs.Target.Choice
import Grimoire.Proofs.Call.Schedule
import Grimoire.Proofs.Effect.Rules
import Grimoire.Proofs.Effect.WellFormed
import Grimoire.Proofs.Number.Counting
import Grimoire.Proofs.Run.Cost
import Grimoire.Proofs.Call.Cost
import Grimoire.Proofs.Run.Coupled
import Grimoire.Proofs.Run.Alongside
import Grimoire.Proofs.Run.Site
import Grimoire.Proofs.Call.Transparency
import Grimoire.Proofs.Effect.Spellbook
import Grimoire.Proofs.Random.Range
import Grimoire.Proofs.Number.Nearest
import Grimoire.Proofs.Expression.RandomInt
import Grimoire.Proofs.World.Character
import Grimoire.Proofs.World.Worth
import Grimoire.Proofs.Run.Deeds
import Grimoire.Proofs.Call.Annals
import Grimoire.Proofs.Call.Stats
import Grimoire.Proofs.Call.Forms
import Grimoire.Proofs.Settings.Rejection
