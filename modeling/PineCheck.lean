import PineCheck.Lint
import PineCheck.Report
import PineCheck.Run
import PineCheck.Scaffold
import PineCheck.Manifest.Files
import PineCheck.Workspace.Glob
import PineCheck.Settings.Resolve
import PineCheck.Service
import PineCheck.Cli
import PineCheck.Main
import PineCheck.Value.Json.Encode
import PineCheck.Proofs.ScopeFrames
import PineCheck.Proofs.Statements
import PineCheck.Proofs.Nesting
import PineCheck.Proofs.CallArguments
import PineCheck.Proofs.BracketDepth
import PineCheck.Proofs.TopLevel
import PineCheck.Proofs.Coupling
import PineCheck.Proofs.Switches
import PineCheck.Proofs.Ceilings
import PineCheck.Proofs.CallTally
import PineCheck.Proofs.PhysicalLines
import PineCheck.Proofs.Places
import PineCheck.Proofs.LineEndings
import PineCheck.Proofs.StrategyTitle
import PineCheck.Proofs.Renumbering
import PineCheck.Proofs.RenumberedPass
import PineCheck.Proofs.InsertedLine
import PineCheck.Proofs.CommentEdit
import PineCheck.Proofs.BracketReport
import PineCheck.Proofs.DanglingLines
import PineCheck.Proofs.Totality
import PineCheck.Proofs.InsideLines
import PineCheck.Proofs.VersionLine
import PineCheck.Proofs.BracketTypos
import PineCheck.Proofs.TokenPlaces
import PineCheck.Proofs.SettingsResolution
import PineCheck.Proofs.BlockOpeners
import PineCheck.Proofs.SettingsLayers
import PineCheck.Proofs.TreeChanges
import PineCheck.Proofs.ScaffoldWrites
import PineCheck.Proofs.JsonRoundTrip
import PineCheck.Proofs.TextRoundTrip
import PineCheck.Proofs.JsonFiles
import PineCheck.Proofs.ManifestTemplate
import PineCheck.Proofs.StrategyChecks
