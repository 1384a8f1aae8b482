import Conductor.Main
import Conductor.Proofs.History
import Conductor.Proofs.Lookup
import Conductor.Proofs.GroupOutcome
import Conductor.Proofs.JobActs
import Conductor.Proofs.ReleaseStages
import Conductor.Proofs.SuiteOutcome
import Conductor.Proofs.ReleaseSafety
import Conductor.Proofs.Secrecy
import Conductor.Proofs.CharacterRuns
import Conductor.Proofs.PatternLeads
import Conductor.Proofs.PatternSpans
import Conductor.Proofs.PatternGroups
import Conductor.Proofs.PatternLanguages
import Conductor.Proofs.ReleaseGrammar
import Conductor.Proofs.TagPatterns
import Conductor.Proofs.ShellQuoting
import Conductor.Proofs.ReleaseWords
import Conductor.Proofs.EdgePublish
import Conductor.Proofs.CommentGate
import Conductor.Proofs.RequestedCheck
import Conductor.Proofs.TemplateTexts
import Conductor.Proofs.SuiteAnswers
import Conductor.Proofs.Notification
import Conductor.Proofs.ReasonsAside
import Conductor.Proofs.AddedReports
import Conductor.Proofs.ReportDelivery
import Conductor.Proofs.ReportFaults
import Conductor.Proofs.FailureAccounting
import Conductor.Proofs.ExitCodes
import Conductor.Proofs.Composition
import Conductor.Proofs.DispatchComposition
import Conductor.Proofs.Plan
import Conductor.Proofs.Rehearsal
import Conductor.Proofs.CheckRerun
import Conductor.Proofs.ImageStarts
import Conductor.Proofs.DockerCalls
import Conductor.Proofs.DispatchAside
import Conductor.Proofs.MemberWarnings
import Conductor.Proofs.ToldReasons
import Conductor.Proofs.SequenceOutcome
import Conductor.Proofs.ConfigTables
import Conductor.Proofs.Preparation
import Conductor.Proofs.CheckDecision
import Conductor.Proofs.Readers
import Conductor.Proofs.JsonLimits
import Conductor.Proofs.JsonDocuments
import Conductor.Proofs.JsonReading
import Conductor.Proofs.Utf8Reading
import Conductor.Proofs.PayloadAnswers
import Conductor.Proofs.CommentAnswers
import Conductor.Proofs.PatternLimits
import Conductor.Proofs.PatternJudgment
import Conductor.Proofs.TomlScalars
import Conductor.Proofs.TomlLimits
import Conductor.Proofs.ConfigAnswers
import Conductor.Proofs.PushNotices
import Conductor.Proofs.RouterTables
import Conductor.Proofs.CallCodes
import Conductor.Proofs.EmissionOrder
import Conductor.Proofs.LastLines
import Conductor.Proofs.RefNames
