import Shaderbox.Proofs.HostDelivery
import Shaderbox.Simulation.World

/-!
# The lifecycle of an application

The runtime promises an application that it is made ready before it is called for input and frames,
that it is called for these only while its window is open, that it is torn down just once if it ever
was ready, and that nothing is asked of it once the run was shut down. The event loop, in turn, must
not deliver anything behind the announcement of its end.

Each promise is read off the manners of the host, which say of each exchange what came before it. So
what is left here is to bring two exchanges of one course in order.
-/

namespace Shaderbox

open Interaction Course

variable {σ : Type}

/-- Whether the course of a run and its outcome are as an application may expect. -/
structure KeepsLifecycle (course : Course σ) (outcome : Except Abort (Except RunError Unit)) :
    Prop where
  /-- It is made ready once at most, and before it is called for input, frames or its end. -/
  ready : ∀ front files size state answer back,
    course = front ++ .app (.contextReady files size) state answer :: back →
      ∀ exchange ∈ front, exchange.isReady = false ∧ exchange.input? = none ∧
        exchange.isFrame = false ∧ exchange.isTeardown = false
  /-- Input and frames are for the window that was opened and is there still. -/
  held : ∀ front exchange back, course = front ++ exchange :: back →
    exchange.input?.isSome = true ∨ exchange.isFrame = true → holdsWindow front = true
  /-- It is torn down once at most. -/
  tornOnce : course.countP Exchange.isTeardown ≤ 1
  /-- It is torn down if it was ready and the run is shut down, or the event loop ends. -/
  torn : course.any Exchange.opens = true → course.any Exchange.isEnding = true →
    course.countP Exchange.isTeardown = 1
  /-- It is not torn down if the window could not be opened, or if it failed to be ready. -/
  refused : course.any Exchange.failsOpening = true → course.countP Exchange.isTeardown = 0
  /-- Once the run was shut down it is not called any more, and no window is opened. -/
  ended : ∀ front back, course = front ++ .window .exitEventLoop () :: back →
    ∀ exchange ∈ back, exchange.isAppCall = false ∧ exchange.createsWindow = false
  /-- Once Escape was pressed there are no more frames. -/
  escaped : ∀ front exchange back, course = front ++ exchange :: back →
    exchange.pressesEscape = true → holdsWindow front = true →
      ∀ later ∈ back, later.isFrame = false
  /-- A run that returns went well just if it says so. -/
  result : ∀ result, outcome = .ok result → (result = .ok () ↔ WentWell course)
  /-- A run that does not return was broken by the application, or by the platform. -/
  broken : ∀ cause, outcome = .error cause → Broken cause course

section Order

variable {course front back : Course σ} {exchange first later : Exchange (Hosting σ)}

/-- What never comes behind itself comes once at most. -/
theorem countP_le_one {holds : Exchange (Hosting σ) → Bool}
    (h : ∀ front exchange back, course = front ++ exchange :: back → holds exchange = true →
      ∀ earlier ∈ front, holds earlier = false) : course.countP holds ≤ 1 := by
  induction course using List.reverseRecOn with
  | nil => simp
  | append_singleton rest last ih =>
    rw [List.countP_append, List.countP_singleton]
    split
    · rename_i hlast
      have hnone : rest.countP holds = 0 :=
        List.countP_eq_zero.mpr fun earlier hmem => by simp [h rest last [] rfl hlast earlier hmem]
      omega
    · refine ih fun front exchange back hsplit hholds => ?_
      exact h front exchange (back ++ [last]) (by simp [hsplit]) hholds

/-- Nothing that only a window gives rise to comes before the window is opened. -/
theorem starts_eq_false_of_mem (h : (orders σ True).Observed [] course)
    (hcourse : course = front ++ exchange :: back)
    (hattempts : exchange.isReady = true ∨ exchange.failsOpening = true) (hfirst : first ∈ front) :
    first.starts = false := by
  subst hcourse
  have hfresh : front.any Exchange.starts = false := h.holds.fresh trivial hattempts
  rw [List.any_eq_false] at hfresh
  exact Bool.eq_false_iff.mpr (hfresh first hfirst)

/-- Behind something that a window gives rise to no window is opened. -/
theorem opens_eq_false_of_mem (h : (orders σ True).Observed [] course)
    (hcourse : course = front ++ exchange :: back) (hstarts : exchange.starts = true)
    (hlater : later ∈ back) : later.opens = false := by
  rw [Bool.eq_false_iff]
  intro hopens
  obtain ⟨between, rest, rfl⟩ := List.append_of_mem hlater
  have hnone : exchange.starts = false := starts_eq_false_of_mem h
    (hcourse.trans (List.append_assoc front (exchange :: between) (later :: rest)).symm)
    (.inl (Exchange.isReady_of_opens hopens)) (by simp)
  rw [hstarts] at hnone
  contradiction

/-- Where a window was opened no step on the way there failed. -/
theorem failsOpening_eq_false_of_opens (h : (orders σ True).Observed [] course)
    (hcourse : course = front ++ exchange :: back) (hopens : exchange.opens = true)
    (hother : first ∈ course) : first.failsOpening = false := by
  rw [Bool.eq_false_iff]
  intro hfails
  have hstarts : first.starts = true := by simp [Exchange.starts, hfails]
  rw [hcourse] at hother
  rcases List.mem_append.mp hother with hfront | hback
  · have hnone := starts_eq_false_of_mem h hcourse (.inl (Exchange.isReady_of_opens hopens)) hfront
    rw [hstarts] at hnone
    contradiction
  · rcases List.mem_cons.mp hback with rfl | hback
    · rw [Exchange.failsOpening_of_opens hopens] at hfails
      contradiction
    · obtain ⟨between, rest, rfl⟩ := List.append_of_mem hback
      have hnone : exchange.starts = false := starts_eq_false_of_mem h
        (hcourse.trans (List.append_assoc front (exchange :: between) (first :: rest)).symm)
        (.inr hfails) (by simp)
      rw [Exchange.starts_of_opens hopens] at hnone
      contradiction

/-- What came behind the last opening of a window was exchanged since then. -/
theorem mem_sinceOpening (hexchange : exchange.opens = false)
    (hback : ∀ later ∈ back, later.opens = false) :
    exchange ∈ sinceOpening (front ++ exchange :: back) := by
  rw [sinceOpening_append front (List.forall_mem_cons.mpr ⟨hexchange, hback⟩)]
  simp

end Order

section Lifecycle

variable {course front back : Course σ} {exchange earlier later : Exchange (Hosting σ)}

/-- Behind a teardown there is no other. -/
theorem isTeardown_eq_false_of_mem (h : (orders σ True).Observed [] course)
    (hcourse : course = front ++ exchange :: back) (hteardown : exchange.isTeardown = true)
    (hearlier : earlier ∈ front) : earlier.isTeardown = false := by
  rw [Bool.eq_false_iff]
  intro htorn
  obtain ⟨before, between, rfl⟩ := List.append_of_mem hearlier
  have hsince : earlier ∈ sinceOpening (before ++ earlier :: between) := by
    refine mem_sinceOpening (Exchange.opens_eq_false (.inl htorn)) fun other hother => ?_
    exact opens_eq_false_of_mem h (hcourse.trans (List.append_assoc _ _ _))
      (by simp [Exchange.starts, htorn]) (List.mem_append_left _ hother)
  subst hcourse
  have huntorn := h.holds.untorn hteardown
  rw [List.any_eq_false] at huntorn
  exact huntorn earlier hsince htorn

/-- Where the application was ready and the run is to end, the application is torn down. -/
theorem exists_isTeardown (h : (orders σ True).Observed [] course)
    (hopened : course.any Exchange.opens = true) (hended : course.any Exchange.isEnding = true) :
    ∃ exchange ∈ course, exchange.isTeardown = true := by
  obtain ⟨opening, hmem, hopens⟩ := List.any_eq_true.mp hopened
  obtain ⟨ending, hending, hends⟩ := List.any_eq_true.mp hended
  obtain ⟨front, back, rfl⟩ := List.append_of_mem hending
  -- the window was opened before, for behind the end none is opened
  have hfront : front.any Exchange.opens = true := by
    rcases List.mem_append.mp hmem with hfront | hback
    · exact List.any_eq_true.mpr ⟨opening, hfront, hopens⟩
    · have hclosed : opening.opens = false := by
        rcases List.mem_cons.mp hback with rfl | hback
        · exact Exchange.opens_eq_false (.inr (.inl hends))
        · exact opens_eq_false_of_mem h rfl (by simp [Exchange.starts, hends]) hback
      rw [hopens] at hclosed
      contradiction
  have htorn : IsTornDown ([] ++ front) back := h.holds.tornDown hends
  cases hheld : holdsWindow front with
  | true =>
    obtain ⟨state, answer, rest, rfl⟩ := htorn.held hheld
    exact ⟨.app .teardown state answer, by simp, rfl⟩
  | false =>
    obtain ⟨exchange, hbefore, hteardown⟩ := List.any_eq_true.mp (htorn.closed hheld hfront)
    exact ⟨exchange, List.mem_append_left _ hbefore, hteardown⟩

/-- Where a step on the way to an open window failed the application is not torn down. -/
theorem isTeardown_eq_false_of_failsOpening (h : (orders σ True).Observed [] course)
    (hrefused : course.any Exchange.failsOpening = true) (hmem : exchange ∈ course) :
    exchange.isTeardown = false := by
  rw [Bool.eq_false_iff]
  intro hteardown
  obtain ⟨refusal, hrefusal, hfails⟩ := List.any_eq_true.mp hrefused
  obtain ⟨front, back, rfl⟩ := List.append_of_mem hmem
  have hheld : holdsWindow ([] ++ front) = true := h.holds.held (.inr (.inr hteardown))
  obtain ⟨opening, hopening, hopens⟩ := List.any_eq_true.mp (any_opens_of_holdsWindow hheld)
  obtain ⟨before, since, hfront⟩ := List.append_of_mem hopening
  have hnone := failsOpening_eq_false_of_opens h
    ((congrArg (· ++ exchange :: back) hfront).trans (List.append_assoc _ _ _)) hopens hrefusal
  rw [hfails] at hnone
  contradiction

/-- Behind a press of Escape while the window is open there is no frame. -/
theorem isFrame_eq_false_of_mem (h : (orders σ True).Observed [] course)
    (hcourse : course = front ++ exchange :: back) (hpresses : exchange.pressesEscape = true)
    (hheld : holdsWindow front = true) (hlater : later ∈ back) : later.isFrame = false := by
  rw [Bool.eq_false_iff]
  intro hframe
  obtain ⟨between, rest, rfl⟩ := List.append_of_mem hlater
  obtain ⟨opening, hopening, hopens⟩ := List.any_eq_true.mp (any_opens_of_holdsWindow hheld)
  obtain ⟨before, since, rfl⟩ := List.append_of_mem hopening
  have hsince :
      exchange ∈ sinceOpening ((before ++ opening :: since) ++ exchange :: between) := by
    refine mem_sinceOpening (Exchange.opens_eq_false (.inr (.inr hpresses))) fun other hother => ?_
    exact opens_eq_false_of_mem h (hcourse.trans (List.append_assoc _ _ _))
      (Exchange.starts_of_opens hopens) (by simp [hother])
  have hsplit := hcourse.trans (List.append_assoc _ (exchange :: between) (later :: rest)).symm
  subst hsplit
  have hunescaped := h.holds.unescaped hframe
  rw [List.any_eq_false] at hunescaped
  exact hunescaped exchange hsince hpresses

/-- The manners of a host are what an application may expect of its lifecycle. -/
theorem keepsLifecycle {outcome : Except Abort (Except RunError Unit)}
    (h : (orders σ True).Observed [] course)
    (hconcludes : Concludes (fun result final => result = .ok () ↔ WentWell final) Broken outcome
      course) : KeepsLifecycle course outcome where
  ready front files size state answer back hcourse exchange hmem := by
    have hstarts := starts_eq_false_of_mem h hcourse (.inl rfl) hmem
    simp only [Exchange.starts, Bool.or_eq_false_iff, Option.isSome_eq_false_iff,
      Option.isNone_iff_eq_none] at hstarts
    exact ⟨hstarts.1.1.1.1.1, hstarts.1.1.1.1.2, hstarts.1.1.1.2, hstarts.1.1.2⟩
  held front exchange back hcourse hcalls := by
    subst hcourse
    exact h.holds.held (hcalls.imp_right .inl)
  tornOnce := countP_le_one fun _ _ _ hcourse hteardown _ =>
    isTeardown_eq_false_of_mem h hcourse hteardown
  torn hopened hended := by
    have honce : course.countP Exchange.isTeardown ≤ 1 :=
      countP_le_one fun _ _ _ hcourse hteardown _ => isTeardown_eq_false_of_mem h hcourse hteardown
    exact Nat.le_antisymm honce (List.countP_pos_iff.mpr (exists_isTeardown h hopened hended))
  refused hrefused := List.countP_eq_zero.mpr fun exchange hmem =>
    Bool.eq_false_iff.mp (isTeardown_eq_false_of_failsOpening h hrefused hmem)
  ended front back hcourse exchange hmem := by
    obtain ⟨between, rest, rfl⟩ := List.append_of_mem hmem
    have hsplit := hcourse.trans
      (List.append_assoc front (.window .exitEventLoop () :: between) (exchange :: rest)).symm
    subst hsplit
    by_contra hcalls
    have hcalls : exchange.isAppCall = true ∨ exchange.createsWindow = true := by
      simpa [-not_and, not_and_or] using hcalls
    have hrunning := h.holds.running hcalls
    simp [Exchange.exits] at hrunning
  escaped front exchange back hcourse hpresses hheld later :=
    isFrame_eq_false_of_mem h hcourse hpresses hheld
  result result houtcome := by
    subst houtcome
    exact hconcludes
  broken cause houtcome := by
    subst houtcome
    exact hconcludes

end Lifecycle

/-- Whatever an application does, a run keeps its lifecycle: of all that it exchanges the callbacks
can be told apart, as calls of the application with what each of them did and answered, and these
come as the application may expect them. The event loop must deliver nothing behind the announcement
of its end. -/
theorem run_keepsLifecycle (app : App σ) {window : WindowSettings} {context : ContextSettings}
    {state : σ} {callbacks : List (Files × LoopCallback)}
    {exchanges : List (Exchange (Effects Graphics))} {outcome : Except Abort (Except RunError Unit)}
    (hquiet : LoopCallback.exiting ∉ callbacks.dropLast.map Prod.snd)
    (hyields : Yields (Runtime.run app window context state callbacks) exchanges outcome) :
    ∃ course, Yields (Host.run window context state callbacks) course outcome ∧
      Unfolds app.implement course exchanges ∧ KeepsLifecycle course outcome := by
  obtain ⟨course, hcourse, hunfolds⟩ := Host.exists_course_of_yields_run app hyields
  obtain ⟨hobserved, hconcludes⟩ :=
    Host.behaves_run window context state callbacks (fun _ : True => hquiet) _ _ hcourse
  exact ⟨course, hcourse, hunfolds, keepsLifecycle hobserved hconcludes⟩

/-- An application that wants to exit with its first frame keeps its lifecycle, though the event
loop resumes the run once more before it ends. -/
theorem run_keepsLifecycle_resumedTwice :
    ∃ (callbacks : List (Files × LoopCallback)) (exchanges : List (Exchange (Effects Graphics)))
      (course : Course Unit),
      callbacks.map Prod.snd = [.resumed, .windowEvent .redrawRequested, .resumed, .exiting] ∧
      LoopCallback.exiting ∉ callbacks.dropLast.map Prod.snd ∧
      Yields (Runtime.run observedApp {} {} () callbacks) exchanges (.ok (.ok ())) ∧
      Unfolds observedApp.implement course exchanges ∧ WentWell course ∧
      KeepsLifecycle course (.ok (.ok ())) := by
  let world : World := { platform := { onFrame := .exit } }
  let callbacks : List (Files × LoopCallback) :=
    [(fun _ => .absent, .resumed), (fun _ => .absent, .windowEvent .redrawRequested),
      (fun _ => .absent, .resumed), (fun _ => .absent, .exiting)]
  have hquiet : LoopCallback.exiting ∉ callbacks.dropLast.map Prod.snd := by simp [callbacks]
  let program := Runtime.run observedApp {} {} () callbacks
  let ending := (program.run (World.answerOther World.answerGraphics) world).1
  obtain ⟨exchanges, hyields⟩ : ∃ exchanges, Yields program exchanges ending :=
    yields_run _ program world
  have hending : ending.toOption = some (.ok ()) := by decide +kernel
  generalize ending = outcome at hyields hending
  cases outcome with
  | error cause => contradiction
  | ok result =>
    obtain rfl := Option.some.inj hending
    obtain ⟨course, -, hunfolds, hkeeps⟩ := run_keepsLifecycle observedApp hquiet hyields
    refine ⟨callbacks, exchanges, course, rfl, hquiet, hyields, hunfolds, ?_, hkeeps⟩
    exact (hkeeps.result _ rfl).mp rfl

end Shaderbox
