import Shaderbox.Abort
import Shaderbox.Camera
import Shaderbox.Clock
import Shaderbox.Demo.App
import Shaderbox.Demo.Swirl
import Shaderbox.Effect
import Shaderbox.Files.Path
import Shaderbox.Files.Tree
import Shaderbox.Graphics.Call
import Shaderbox.Graphics.Creation
import Shaderbox.Graphics.ErrorCode
import Shaderbox.Graphics.Handle
import Shaderbox.Graphics.Native
import Shaderbox.Graphics.Rack
import Shaderbox.Graphics.Stage
import Shaderbox.Input.Context
import Shaderbox.Input.Conversion
import Shaderbox.Input.Event
import Shaderbox.Input.Key
import Shaderbox.Interaction
import Shaderbox.Log
import Shaderbox.Log.Filter
import Shaderbox.Log.Logger
import Shaderbox.Main
import Shaderbox.Number.Shortest
import Shaderbox.Number.Word
import Shaderbox.Number.Written
import Shaderbox.Pattern.Basic
import Shaderbox.Pattern.CharSet
import Shaderbox.Pattern.Class
import Shaderbox.Pattern.Escape
import Shaderbox.Pattern.Fault
import Shaderbox.Pattern.Meaning
import Shaderbox.Pattern.Occurrence
import Shaderbox.Pattern.Reader
import Shaderbox.Pattern.Reading
import Shaderbox.Pattern.Tree
import Shaderbox.Proofs.Announcements
import Shaderbox.Proofs.AppLifecycle
import Shaderbox.Proofs.BudgetAccount
import Shaderbox.Proofs.BudgetLockstep
import Shaderbox.Proofs.BuildObjects
import Shaderbox.Proofs.BuildProgram
import Shaderbox.Proofs.BuildReport
import Shaderbox.Proofs.BuildSuccess
import Shaderbox.Proofs.BuildTrace
import Shaderbox.Proofs.ByteOffsets
import Shaderbox.Proofs.CameraBounds
import Shaderbox.Proofs.CameraCourse
import Shaderbox.Proofs.CheckedExpansion
import Shaderbox.Proofs.CheckedScan
import Shaderbox.Proofs.CleanExpansion
import Shaderbox.Proofs.ClockAccount
import Shaderbox.Proofs.Conduct
import Shaderbox.Proofs.Confinement
import Shaderbox.Proofs.CurrentTables
import Shaderbox.Proofs.Custody
import Shaderbox.Proofs.DemoLifetime
import Shaderbox.Proofs.DeviceTrace
import Shaderbox.Proofs.DrawSettings
import Shaderbox.Proofs.Etiquette
import Shaderbox.Proofs.EventOrder
import Shaderbox.Proofs.ExactProducts
import Shaderbox.Proofs.ExpansionSteps
import Shaderbox.Proofs.FixedCalls
import Shaderbox.Proofs.FrameInput
import Shaderbox.Proofs.FramePasses
import Shaderbox.Proofs.FrameTurns
import Shaderbox.Proofs.Freshness
import Shaderbox.Proofs.GridVertices
import Shaderbox.Proofs.HostCourse
import Shaderbox.Proofs.HostDelivery
import Shaderbox.Proofs.HostManners
import Shaderbox.Proofs.HostPhases
import Shaderbox.Proofs.HostStandings
import Shaderbox.Proofs.Hosting
import Shaderbox.Proofs.InputHistory
import Shaderbox.Proofs.InputSteps
import Shaderbox.Proofs.Ledger
import Shaderbox.Proofs.LineExpansion
import Shaderbox.Proofs.LineNumbers
import Shaderbox.Proofs.LoadedText
import Shaderbox.Proofs.LogFilters
import Shaderbox.Proofs.LogOutput
import Shaderbox.Proofs.OctetReading
import Shaderbox.Proofs.Outward
import Shaderbox.Proofs.Ownership
import Shaderbox.Proofs.PassIsolation
import Shaderbox.Proofs.PathJoin
import Shaderbox.Proofs.PatternMatches
import Shaderbox.Proofs.PatternWords
import Shaderbox.Proofs.RackHistory
import Shaderbox.Proofs.RawCalls
import Shaderbox.Proofs.RawClients
import Shaderbox.Proofs.Refusals
import Shaderbox.Proofs.Reload
import Shaderbox.Proofs.Renaming
import Shaderbox.Proofs.ReportFlags
import Shaderbox.Proofs.ReportedDependencies
import Shaderbox.Proofs.Restart
import Shaderbox.Proofs.RuntimeConduct
import Shaderbox.Proofs.SameAnswers
import Shaderbox.Proofs.SceneBuild
import Shaderbox.Proofs.SceneCustody
import Shaderbox.Proofs.SceneHistory
import Shaderbox.Proofs.SceneLifetime
import Shaderbox.Proofs.SelfInclusion
import Shaderbox.Proofs.SizeCourse
import Shaderbox.Proofs.SourceCuts
import Shaderbox.Proofs.StageSources
import Shaderbox.Proofs.SurfaceConduct
import Shaderbox.Proofs.SurfaceInStep
import Shaderbox.Proofs.SwirlObjects
import Shaderbox.Proofs.TextLines
import Shaderbox.Proofs.UniformUploads
import Shaderbox.Proofs.ViewportInForce
import Shaderbox.Proofs.WalkAttempts
import Shaderbox.Proofs.WalkDependency
import Shaderbox.Proofs.WalkEvents
import Shaderbox.Proofs.WalkLines
import Shaderbox.Proofs.WalkRules
import Shaderbox.Proofs.WheelScroll
import Shaderbox.Proofs.WholeFiles
import Shaderbox.Scene.Basic
import Shaderbox.Scene.Config
import Shaderbox.Scene.Particles
import Shaderbox.Scene.Programs
import Shaderbox.Shader.Buffer
import Shaderbox.Shader.Config
import Shaderbox.Shader.Finding
import Shaderbox.Shader.Include
import Shaderbox.Shader.Program
import Shaderbox.Shader.Source
import Shaderbox.Shader.Status
import Shaderbox.Shader.Uniform
import Shaderbox.Simulation.Device
import Shaderbox.Simulation.Platform
import Shaderbox.Simulation.Transcript
import Shaderbox.Simulation.World
import Shaderbox.Space.Matrix
import Shaderbox.Space.Vector
import Shaderbox.Text.Blank
import Shaderbox.Text.Decoding
import Shaderbox.Text.Extent
import Shaderbox.Text.Invisible
import Shaderbox.Text.Letters
import Shaderbox.Text.Lines
import Shaderbox.Text.Quoted
import Shaderbox.Text.Search
import Shaderbox.Text.Terminal
import Shaderbox.Window.App
import Shaderbox.Window.Call
import Shaderbox.Window.Runtime
import Shaderbox.Window.Surface
