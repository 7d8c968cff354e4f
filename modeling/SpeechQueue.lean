import SpeechQueue.Engine.Recording
import SpeechQueue.Engine.Scripted
import SpeechQueue.Json.Forms
import SpeechQueue.Main
import SpeechQueue.Parameters
import SpeechQueue.Proofs.Resolution
import SpeechQueue.Proofs.SharedDesk
import SpeechQueue.Proofs.ParameterHistory
import SpeechQueue.Proofs.ConsoleRuns
import SpeechQueue.Proofs.Flush
import SpeechQueue.Proofs.Projection
import SpeechQueue.Proofs.Server
import SpeechQueue.Proofs.Traced
import SpeechQueue.Proofs.PlayerService
import SpeechQueue.Proofs.ConsoleService
import SpeechQueue.Proofs.QueueRefinement
import SpeechQueue.Proofs.EngineStart
import SpeechQueue.Proofs.StartOnce
import SpeechQueue.Proofs.Generations
import SpeechQueue.Proofs.Conservation
import SpeechQueue.Proofs.CancelledPlayers
import SpeechQueue.Proofs.ConsoleDesk
import SpeechQueue.Proofs.Release
import SpeechQueue.Proofs.Playthrough
import SpeechQueue.Proofs.Refusal
import SpeechQueue.Proofs.Wordwise
import SpeechQueue.Proofs.Rounding
import SpeechQueue.Proofs.NumberText
import SpeechQueue.Proofs.RecordedCalls
import SpeechQueue.Proofs.CallDiscipline
import SpeechQueue.Proofs.Listening
import SpeechQueue.Proofs.Reports
import SpeechQueue.Proofs.SpokenOnce
import SpeechQueue.Proofs.ErrorReports
import SpeechQueue.Proofs.AttributeWrites
import SpeechQueue.Proofs.Gate
import SpeechQueue.Proofs.Announcements
import SpeechQueue.Proofs.StandIn
import SpeechQueue.Proofs.Reception
import SpeechQueue.Proofs.AcceptedSettings
import SpeechQueue.Proofs.MergedTrees
import SpeechQueue.Proofs.SettingLayers
import SpeechQueue.Proofs.SettingReads
import SpeechQueue.Proofs.Precedence
import SpeechQueue.Proofs.DocumentKeys
import SpeechQueue.Proofs.StrictReads
import SpeechQueue.Proofs.PartialFiles
import SpeechQueue.Proofs.LastWriter
import SpeechQueue.Proofs.Dispatch
import SpeechQueue.Proofs.EngineRest
import SpeechQueue.Proofs.AwaitedStarts
import SpeechQueue.Proofs.RestingSessions
import SpeechQueue.Proofs.Burst
import SpeechQueue.Proofs.Succession
import SpeechQueue.Proofs.OverlappingStarts
import SpeechQueue.Proofs.JoinedTexts
import SpeechQueue.Proofs.AppliedDirectives
import SpeechQueue.Proofs.PlaybackTime
import SpeechQueue.Proofs.SettingFlaws
import SpeechQueue.Proofs.ExposedKeywords
