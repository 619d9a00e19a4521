import FuelDuel.Arena.Agent
import FuelDuel.Arena.Basic
import FuelDuel.Arena.Body
import FuelDuel.Arena.CellSet
import FuelDuel.Arena.Grid
import FuelDuel.Arena.Perception
import FuelDuel.Arena.Random
import FuelDuel.Arena.Report
import FuelDuel.CommandLine.Arguments
import FuelDuel.CommandLine.Run
import FuelDuel.Config.Basic
import FuelDuel.Config.Load
import FuelDuel.Decimal.Shortest
import FuelDuel.Execution.Eval
import FuelDuel.Execution.Session
import FuelDuel.Execution.Step
import FuelDuel.Execution.World
import FuelDuel.Json.Numeral
import FuelDuel.Json.Pretty
import FuelDuel.Json.Read
import FuelDuel.Json.Value
import FuelDuel.Language.Canonical
import FuelDuel.Language.Cursor
import FuelDuel.Language.Keyword
import FuelDuel.Language.Layout
import FuelDuel.Language.Parse
import FuelDuel.Language.Prebuilt
import FuelDuel.Language.Reader
import FuelDuel.Language.SyntaxError
import FuelDuel.Language.Token
import FuelDuel.Language.Tree
import FuelDuel.Main
import FuelDuel.Match
import FuelDuel.Proofs.ActionSlot
import FuelDuel.Proofs.Computation
import FuelDuel.Proofs.Grammar
import FuelDuel.Proofs.Recognition
import FuelDuel.Proofs.Recording
import FuelDuel.Proofs.Resumption
import FuelDuel.Proofs.Running
import FuelDuel.Proofs.Simulation
import FuelDuel.Proofs.SteadyWorld
import FuelDuel.Proofs.Structured
import FuelDuel.Proofs.TokenClass
import FuelDuel.Text.Blank
import FuelDuel.Text.Decimal
import FuelDuel.Text.Lines
import FuelDuel.Text.Location
import FuelDuel.World.Readings
import FuelDuel.World.Rehearsal
import FuelDuel.World.Scripted
import FuelDuel.World.Vars
import FuelDuel.World.View
import FuelDuel.Proofs.ReadTerms
import FuelDuel.Proofs.ReadStatements
import FuelDuel.Proofs.Acceptance
import FuelDuel.Proofs.Numerals
import FuelDuel.Proofs.Scanning
import FuelDuel.Proofs.Spelling
import FuelDuel.Proofs.RoundTrip
import FuelDuel.Proofs.Formatting
import FuelDuel.Proofs.Occupancy
import FuelDuel.Proofs.Exchange
import FuelDuel.Proofs.Chance
import FuelDuel.Proofs.WholeMatch
import FuelDuel.Proofs.HalfTurn
import FuelDuel.Proofs.Limits
import FuelDuel.Proofs.Residuals
import FuelDuel.Proofs.Endurance
import FuelDuel.Proofs.Barrels
import FuelDuel.Proofs.CheckedTick
import FuelDuel.Proofs.TurnInPlace
import FuelDuel.Proofs.BarrelLedger
import FuelDuel.Proofs.Faults
import FuelDuel.Proofs.ViablePrefix
import FuelDuel.Proofs.ViableTerms
import FuelDuel.Proofs.ViableStatements
import FuelDuel.Proofs.Tiling
import FuelDuel.Proofs.ErrorSite
import FuelDuel.Proofs.Independence
import FuelDuel.Proofs.Rehearsing
import FuelDuel.Proofs.Watching
import FuelDuel.Proofs.Flattening
import FuelDuel.Proofs.Bracketed
import FuelDuel.Proofs.CanonicalForms
import FuelDuel.Proofs.CanonicalReading
import FuelDuel.Proofs.Reachable
import FuelDuel.Proofs.TickLaw
import FuelDuel.Proofs.FuelBalance
import FuelDuel.Proofs.Partition
import FuelDuel.Proofs.ReadAlike
import FuelDuel.Proofs.Respacing
import FuelDuel.Proofs.SlotUse
import FuelDuel.Proofs.Performing
import FuelDuel.Proofs.Counting
import FuelDuel.Proofs.LoopRounds
import FuelDuel.Proofs.Everywhere
import FuelDuel.Proofs.Delays
import FuelDuel.Proofs.StepBudget
import FuelDuel.Proofs.IdleLoops
import FuelDuel.Proofs.Lockstep
import FuelDuel.Proofs.GuardedLoops
import FuelDuel.Proofs.ExactValues
import FuelDuel.Proofs.FailedSteps
import FuelDuel.Proofs.ZeroDivisors
import FuelDuel.Proofs.SensorOrder
import FuelDuel.Proofs.Sight
import FuelDuel.Proofs.Steering
import FuelDuel.Proofs.Interchange
import FuelDuel.Proofs.Approach
import FuelDuel.Proofs.Hunting
import FuelDuel.Proofs.Pursuit
import FuelDuel.Proofs.Concatenation
import FuelDuel.Proofs.Positions
import FuelDuel.Proofs.ElifChains
import FuelDuel.Proofs.Expectations
import FuelDuel.Proofs.SourceLines
import FuelDuel.Proofs.Caret
import FuelDuel.Proofs.WrittenVars
import FuelDuel.Proofs.StoresAlike
import FuelDuel.Proofs.OwnVariables
import FuelDuel.Proofs.Locations
import FuelDuel.Proofs.Period
import FuelDuel.Proofs.Stocking
import FuelDuel.Proofs.WallDistance
