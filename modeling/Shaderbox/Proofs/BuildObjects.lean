import Shaderbox.Proofs.BuildProgram
import Shaderbox.Simulation.World

/-!
# The objects of a build

The calls of a build other than queries are written out for every way in which the device may refuse
to create an object, and the whole trace is accounted for: whatever the device answers, the shaders
that were created are all deleted, and only a program that the build gives back is left.
-/

namespace Shaderbox

open Interaction

/-- Shaders as objects of the device. -/
def shaderObjects (shaders : List ShaderId) : Multiset DeviceObject :=
  Multiset.ofList (shaders.map DeviceObject.shader)

@[simp] theorem shaderObjects_nil : shaderObjects [] = 0 := rfl

@[simp] theorem shaderObjects_cons (shader : ShaderId) (rest : List ShaderId) :
    shaderObjects (shader :: rest) = .shader shader ::ₘ shaderObjects rest := rfl

section Ledger

variable {alive : Multiset DeviceObject}

/-- The shader of a stage is alive behind its compilation, whether or not it compiled. -/
theorem aliveAfter_compiledStage (compiled : CompiledStage) :
    aliveAfter alive compiled.trace = some (.shader compiled.shader ::ₘ alive) := by
  obtain ⟨expanded, shader, failure⟩ := compiled
  rw [← Multiset.singleton_add, add_comm]
  cases failure with
  | none =>
    simp [CompiledStage.trace, compileCheck, aliveAfter, GraphicsCall.named, GraphicsCall.deleted,
      Exchange.created]
  | some log =>
    simp [CompiledStage.trace, compileCheck, aliveAfter, GraphicsCall.named, GraphicsCall.deleted,
      Exchange.created]

/-- All shaders are alive behind the compilation of their stages. -/
theorem aliveAfter_compiledStages (compiled : List CompiledStage) :
    aliveAfter alive (compiled.flatMap CompiledStage.trace) =
      some (shaderObjects (compiled.map CompiledStage.shader) + alive) := by
  induction compiled generalizing alive with
  | nil => simp [aliveAfter]
  | cons first rest ih =>
    rw [List.flatMap_cons, aliveAfter_append, aliveAfter_compiledStage, Option.bind_some, ih]
    simp

/-- Deleting living shaders leaves the other objects. -/
theorem aliveAfter_deletions (shaders : List ShaderId) :
    aliveAfter (shaderObjects shaders + alive) (deletions shaders) = some alive := by
  induction shaders with
  | nil => simp [deletions, aliveAfter]
  | cons shader rest ih =>
    have hnamed : ∀ object ∈ (GraphicsCall.deleteShader shader).named,
        object ∈ shaderObjects (shader :: rest) + alive := by
      simp [GraphicsCall.named]
    rw [deletions_cons, aliveAfter_cons hnamed]
    simpa [GraphicsCall.deleted, Exchange.created] using ih

/-- Attaching living shaders to a living program leaves the program and the other objects. -/
theorem aliveAfter_attachments {program : ProgramId} (hprogram : .program program ∈ alive)
    (shaders : List ShaderId) :
    aliveAfter (shaderObjects shaders + alive) (attachments program shaders) = some alive := by
  induction shaders with
  | nil => simp [attachments, aliveAfter]
  | cons shader rest ih =>
    rw [attachments_cons, aliveAfter_cons (by simp [GraphicsCall.named, hprogram]),
      aliveAfter_cons (by simp [GraphicsCall.named, GraphicsCall.deleted, Exchange.created])]
    simpa [GraphicsCall.deleted, Exchange.created] using ih

/-- Linking and validating a living program leaves it and the other objects, whatever the statuses
are. -/
theorem aliveAfter_checks {program : ProgramId} (hprogram : .program program ∈ alive)
    (failure : Option String) (valid : Bool) :
    aliveAfter alive (⟨.linkProgram program, ()⟩ :: linkCheck program failure ++
      [⟨.validateProgram program, ()⟩, ⟨.validateStatus program, valid⟩]) = some alive := by
  cases failure with
  | none =>
    simp [linkCheck, aliveAfter, GraphicsCall.named, GraphicsCall.deleted, Exchange.created,
      hprogram]
  | some log =>
    simp [linkCheck, aliveAfter, GraphicsCall.named, GraphicsCall.deleted, Exchange.created,
      hprogram]

/-- Only the program is left of the shaders that it is made of. -/
theorem aliveAfter_finishedProgram (finished : FinishedProgram) (shaders : List ShaderId) :
    aliveAfter (shaderObjects shaders + alive) (finished.trace shaders) =
      some (.program finished.program ::ₘ alive) := by
  have hcreated : shaderObjects shaders + alive -
        (GraphicsCall.createProgram).deleted +
        Exchange.created ⟨.createProgram, .ok finished.program⟩ =
      shaderObjects shaders + .program finished.program ::ₘ alive := by
    rw [← Multiset.singleton_add, add_comm {_}]
    simp [GraphicsCall.deleted, Exchange.created, add_assoc]
  rw [FinishedProgram.trace, List.cons_append, List.cons_append, List.append_assoc,
    aliveAfter_cons (by simp [GraphicsCall.named]), hcreated, aliveAfter_append,
    aliveAfter_attachments (Multiset.mem_cons_self _ _)]
  exact aliveAfter_checks (Multiset.mem_cons_self _ _) _ _

/-- A refused creation changes nothing. -/
theorem aliveAfter_refused {exchange : Exchange Graphics} {rest : List (Exchange Graphics)}
    (hnamed : exchange.request.named = []) (hcreated : exchange.created = 0)
    (hdeleted : exchange.request.deleted = 0) :
    aliveAfter alive (exchange :: rest) = aliveAfter alive rest := by
  rw [aliveAfter_cons (by simp [hnamed]), hcreated, hdeleted, tsub_zero, add_zero]

/-- The objects of a result, if there is one. -/
def leftBy {α : Type} (objects : α → Multiset DeviceObject) :
    Except CreateError α → Multiset DeviceObject
  | .ok result => objects result
  | .error _ => 0

/-- The program of a build as an object of the device. -/
def ProgramBuild.objects (build : ProgramBuild) : Multiset DeviceObject :=
  {.program build.program.id}

/-- A build can be accounted for, and leaves its program only. -/
theorem BuildTrace.aliveAfter_eq {label : String} {stages : List ExpandedStage}
    {trace : List (Exchange Graphics)} {result : Except CreateError ProgramBuild}
    (h : BuildTrace label stages trace result) :
    aliveAfter alive trace = some (leftBy ProgramBuild.objects result + alive) := by
  cases h with
  | built compiled finished =>
    rw [aliveAfter_append, aliveAfter_compiledStages, Option.bind_some, aliveAfter_finishedProgram]
    rfl
  | shaderRefused compiled =>
    rw [aliveAfter_append, aliveAfter_compiledStages, Option.bind_some,
      aliveAfter_refused rfl rfl rfl, aliveAfter_deletions, leftBy, zero_add]
  | programRefused compiled =>
    rw [aliveAfter_append, aliveAfter_compiledStages, Option.bind_some,
      aliveAfter_refused rfl rfl rfl, aliveAfter_deletions, leftBy, zero_add]

end Ledger

/-- Whether a call only asks for a status or a log. -/
def GraphicsCall.asksStatus : GraphicsCall → Bool
  | .compileStatus _ => true
  | .shaderLog _ => true
  | .linkStatus _ => true
  | .programLog _ => true
  | .validateStatus _ => true
  | _ => false

/-- The calls of a trace that do more than ask for a status or a log. -/
def objectCalls (trace : List (Exchange Graphics)) : List (Exchange Graphics) :=
  trace.filter fun exchange => !exchange.request.asksStatus

/-- Creating a shader for each stage in order and compiling the source of the stage. -/
def compilations (made : List (ExpandedStage × ShaderId)) : List (Exchange Graphics) :=
  made.flatMap fun (stage, shader) =>
    [⟨.createShader stage.stage, .ok shader⟩, ⟨.shaderSource shader stage.source, ()⟩,
      ⟨.compileShader shader, ()⟩]

/-- What a build of expanded stages does to objects, and the program that it then gives back. -/
inductive ObjectCalls (label : String) (stages : List ExpandedStage) :
    List (Exchange Graphics) → Except CreateError ProgramHandle → Prop where
  /-- A program was made of shaders for all stages. -/
  | built (made : List (ExpandedStage × ShaderId)) (program : ProgramId)
      (all : made.map Prod.fst = stages) :
      ObjectCalls label stages
        (compilations made ++ ⟨.createProgram, .ok program⟩ ::
          attachments program (made.map Prod.snd) ++
          [⟨.linkProgram program, ()⟩, ⟨.validateProgram program, ()⟩])
        (.ok ⟨program, label⟩)
  /-- The shader of a stage was refused. -/
  | shaderRefused (made : List (ExpandedStage × ShaderId)) (refused : ExpandedStage)
      (rest : List ExpandedStage) (reason : String)
      (some : made.map Prod.fst ++ refused :: rest = stages) :
      ObjectCalls label stages
        (compilations made ++ ⟨.createShader refused.stage, .error reason⟩ ::
          deletions (made.map Prod.snd))
        (.error ⟨.shader, reason⟩)
  /-- There are shaders for all stages, and the program was refused. -/
  | programRefused (made : List (ExpandedStage × ShaderId)) (reason : String)
      (all : made.map Prod.fst = stages) :
      ObjectCalls label stages
        (compilations made ++ ⟨.createProgram, .error reason⟩ :: deletions (made.map Prod.snd))
        (.error ⟨.program, reason⟩)

section Calls

theorem objectCalls_append (front back : List (Exchange Graphics)) :
    objectCalls (front ++ back) = objectCalls front ++ objectCalls back :=
  List.filter_append front back

/-- A call that does more than ask is kept. -/
theorem objectCalls_cons {exchange : Exchange Graphics}
    (h : exchange.request.asksStatus = false) (rest : List (Exchange Graphics)) :
    objectCalls (exchange :: rest) = exchange :: objectCalls rest := by
  simp [objectCalls, h]

theorem objectCalls_deletions (shaders : List ShaderId) :
    objectCalls (deletions shaders) = deletions shaders := by
  induction shaders with
  | nil => rfl
  | cons shader rest ih => rw [deletions_cons, objectCalls_cons rfl, ih]

theorem objectCalls_attachments (program : ProgramId) (shaders : List ShaderId) :
    objectCalls (attachments program shaders) = attachments program shaders := by
  induction shaders with
  | nil => rfl
  | cons shader rest ih =>
    rw [attachments_cons, objectCalls_cons rfl, objectCalls_cons rfl, ih]

/-- The shader that a compiled stage was made into. -/
def CompiledStage.made (compiled : CompiledStage) : ExpandedStage × ShaderId :=
  (compiled.expanded, compiled.shader)

theorem objectCalls_compiledStages (compiled : List CompiledStage) :
    objectCalls (compiled.flatMap CompiledStage.trace) =
      compilations (compiled.map CompiledStage.made) := by
  induction compiled with
  | nil => rfl
  | cons first rest ih =>
    obtain ⟨expanded, shader, failure⟩ := first
    rw [List.flatMap_cons, objectCalls_append, ih]
    cases failure with
    | none => rfl
    | some log => rfl

theorem objectCalls_finishedProgram (finished : FinishedProgram) (shaders : List ShaderId) :
    objectCalls (finished.trace shaders) =
      ⟨.createProgram, .ok finished.program⟩ :: attachments finished.program shaders ++
        [⟨.linkProgram finished.program, ()⟩, ⟨.validateProgram finished.program, ()⟩] := by
  obtain ⟨program, failure, valid⟩ := finished
  rw [FinishedProgram.trace, objectCalls_append, objectCalls_append, objectCalls_cons rfl,
    objectCalls_attachments, List.append_assoc]
  cases failure with
  | none => rfl
  | some log => rfl

/-- What a build does to objects is what it does at all without the queries. -/
theorem BuildTrace.objectCalls_of {label : String} {stages : List ExpandedStage}
    {trace : List (Exchange Graphics)} {result : Except CreateError ProgramBuild}
    (h : BuildTrace label stages trace result) :
    ObjectCalls label stages (objectCalls trace) (result.map ProgramBuild.program) := by
  have hstages (compiled : List CompiledStage) :
      (compiled.map CompiledStage.made).map Prod.fst = compiled.map CompiledStage.expanded :=
    List.map_map
  have hshaders (compiled : List CompiledStage) :
      (compiled.map CompiledStage.made).map Prod.snd = compiled.map CompiledStage.shader :=
    List.map_map
  cases h with
  | built compiled finished all =>
    rw [objectCalls_append, objectCalls_compiledStages, objectCalls_finishedProgram, ← hshaders]
    have hbuilt : ObjectCalls label stages _ _ :=
      .built (compiled.map CompiledStage.made) finished.program (by rw [hstages, all])
    simpa only [List.append_assoc, List.cons_append, Except.map] using hbuilt
  | shaderRefused compiled refused rest reason some =>
    rw [objectCalls_append, objectCalls_compiledStages, objectCalls_cons rfl,
      objectCalls_deletions, ← hshaders]
    exact .shaderRefused _ refused rest reason (by rw [hstages, some])
  | programRefused compiled reason all =>
    rw [objectCalls_append, objectCalls_compiledStages, objectCalls_cons rfl,
      objectCalls_deletions, ← hshaders]
    exact .programRefused _ reason (by rw [hstages, all])

end Calls

/-- Whatever the device answers, a build comes to a result. Queries aside, it makes a shader of each
stage, the vertex stage first and behind it the geometry and the fragment stage if there are any,
and compiles the source that the buffer then holds, makes the program, attaches and deletes each
shader in order, links and validates. A refusal ends this, and the shaders made before are deleted
in order. So every shader is deleted exactly once, nothing is used after its deletion, and a program
is left exactly when the build gives it back. -/
theorem buildProgram_object_calls {files : Files} {config : ShaderConfig}
    {sources : ProgramSources} {buffer : SourceBuffer}
    {exchanges : List (Exchange (Effects Graphics))}
    {outcome : Except Abort (BuildStep ProgramBuild)} (hsize : config.maxSourceSize < sizeMax)
    (h : Yields (buildProgram files config sources buffer) exchanges outcome) :
    ∃ named stages step,
      named = (.vertex, sources.vertex) :: (sources.geometry.toList.map (.geometry, ·) ++
        sources.fragment.toList.map (.fragment, ·)) ∧
      expandStages files config named buffer = .ok stages ∧
      stages.map (fun expanded => (expanded.stage, expanded.name)) = named ∧
      outcome = .ok step ∧
      ObjectCalls sources.label stages (objectCalls (deviceTrace exchanges))
        (step.result.map ProgramBuild.program) ∧
      aliveAfter 0 (deviceTrace exchanges) = some (leftBy ProgramBuild.objects step.result) ∧
      leftBy ProgramBuild.objects step.result + deletedIn (deviceTrace exchanges) =
        createdIn (deviceTrace exchanges) ∧
      ∀ shader, (deletedIn (deviceTrace exchanges)).count (.shader shader) =
        (createdIn (deviceTrace exchanges)).count (.shader shader) := by
  obtain ⟨step, rfl, stages, hstages, htrace⟩ := ensures_buildProgram hsize sources buffer _ _ h
  have halive : aliveAfter 0 (deviceTrace exchanges) =
      some (leftBy ProgramBuild.objects step.result) := by
    rw [htrace.aliveAfter_eq, add_zero]
  have haccount := final_add_deletedIn halive
  rw [zero_add] at haccount
  refine ⟨sources.stages, stages, step, sources.stages_eq, hstages, expandStages_map hstages, rfl,
    htrace.objectCalls_of, halive, haccount, ?_⟩
  intro shader
  have hleft : (leftBy ProgramBuild.objects step.result).count (.shader shader) = 0 := by
    cases step.result with
    | ok build => simp [leftBy, ProgramBuild.objects]
    | error error => rfl
  rw [← haccount, Multiset.count_add, hleft, zero_add]

/-- Files that hold their own names. -/
def namedFiles : Files := fun path => .file path.text.toUTF8

/-- Build a program of three stages. -/
def buildPoint : Action (BuildStep ProgramBuild) :=
  buildProgram namedFiles {} ⟨⟨"point.vert"⟩, some ⟨"point.geom"⟩, some ⟨"point.frag"⟩⟩ ⟨"", 64⟩

/-- A program of three stages is made of three shaders, and each is deleted once it is attached. A
device with no programs left has them deleted without a program. -/
theorem buildProgram_object_calls_threeStages :
    ({} : ShaderConfig).maxSourceSize < sizeMax ∧
      (∃ exchanges step,
        Yields buildPoint exchanges (.ok step) ∧
        step.result = .ok ⟨⟨⟨4⟩, "point.vert+point.geom+point.frag"⟩, []⟩ ∧
        (objectCalls (deviceTrace exchanges)).map Exchange.request =
          [.createShader .vertex, .shaderSource ⟨1⟩ "shaders/point.vert", .compileShader ⟨1⟩,
            .createShader .geometry, .shaderSource ⟨2⟩ "shaders/point.geom", .compileShader ⟨2⟩,
            .createShader .fragment, .shaderSource ⟨3⟩ "shaders/point.frag", .compileShader ⟨3⟩,
            .createProgram, .attachShader ⟨4⟩ ⟨1⟩, .deleteShader ⟨1⟩, .attachShader ⟨4⟩ ⟨2⟩,
            .deleteShader ⟨2⟩, .attachShader ⟨4⟩ ⟨3⟩, .deleteShader ⟨3⟩, .linkProgram ⟨4⟩,
            .validateProgram ⟨4⟩] ∧
        aliveAfter 0 (deviceTrace exchanges) = some {.program ⟨4⟩}) ∧
      ∃ exchanges step,
        Yields buildPoint exchanges (.ok step) ∧
        step.result = .error ⟨.program, "out of program objects"⟩ ∧
        (objectCalls (deviceTrace exchanges)).map Exchange.request =
          [.createShader .vertex, .shaderSource ⟨1⟩ "shaders/point.vert", .compileShader ⟨1⟩,
            .createShader .geometry, .shaderSource ⟨2⟩ "shaders/point.geom", .compileShader ⟨2⟩,
            .createShader .fragment, .shaderSource ⟨3⟩ "shaders/point.frag", .compileShader ⟨3⟩,
            .createProgram, .deleteShader ⟨1⟩, .deleteShader ⟨2⟩, .deleteShader ⟨3⟩] ∧
        aliveAfter 0 (deviceTrace exchanges) = some 0 := by
  have hroom : ({} : ShaderConfig).maxSourceSize < sizeMax := by decide
  have hrun (world : World) (result : Except CreateError ProgramBuild)
      (hresult : (world.perform .direct buildPoint).1.toOption.map BuildStep.result = some result) :
      ∃ step, Yields buildPoint (world.rehearse buildPoint) (.ok step) ∧ step.result = result ∧
        aliveAfter 0 (deviceTrace (world.rehearse buildPoint)) =
          some (leftBy ProgramBuild.objects result) := by
    have hyields : Yields buildPoint (world.rehearse buildPoint) _ := World.yields_rehearse rfl
    obtain ⟨-, -, step, -, -, -, houtcome, -, halive, -⟩ := buildProgram_object_calls hroom hyields
    rw [houtcome] at hyields hresult
    obtain rfl := Option.some.inj hresult
    exact ⟨step, hyields, rfl, halive⟩
  refine ⟨hroom, ?_, ?_⟩
  · obtain ⟨step, hyields, hresult, halive⟩ :=
      hrun {} (.ok ⟨⟨⟨4⟩, "point.vert+point.geom+point.frag"⟩, []⟩) (by decide +kernel)
    exact ⟨_, step, hyields, hresult, by decide +kernel, halive⟩
  · obtain ⟨step, hyields, hresult, halive⟩ :=
      hrun { device := { script := { programsLeft := some 0 } } }
        (.error ⟨.program, "out of program objects"⟩) (by decide +kernel)
    exact ⟨_, step, hyields, hresult, by decide +kernel, halive⟩

end Shaderbox
