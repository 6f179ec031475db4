import Shaderbox.Shader.Include

/-!
# What happens during a walk

A property of single events holds all through a walk when it holds of the events at directives and
of those of reading a file. Which files are read may be restricted: the top-level one and those
that an accepted name leads to.
-/

namespace Shaderbox

variable {files : Files} {config : ShaderConfig} {top : Path} {holds : IncludeEvent → Prop}

/-- What holds of the events at directives and of those of included files holds of all events of
the walk over a text. -/
theorem expandText_events {path : Path} {splice : Nat → Path → Walk}
    (hmalformed : ∀ line, holds (.malformed path line))
    (hself : ∀ line name, holds (.selfIncluded path line name)) (hrefused : holds .refused)
    (hsplice : ∀ budget onLine name, includeName? onLine = some name →
      ∀ event ∈ (splice budget (config.path name)).events, holds event)
    (line budget : Nat) (source : List Char) :
    ∀ event ∈ (expandText config top path splice line budget source).events, holds event := by
  fun_induction expandText config top path splice line budget source with
  | case1 => simp
  | case2 _ _ _ _ _ _ _ _ _ _ _ _ _ ih =>
    intro event hevent
    rcases List.mem_cons.mp hevent with rfl | hevent
    · exact hmalformed _
    · exact ih event hevent
  | case3 =>
    intro event hevent
    obtain rfl := List.mem_singleton.mp hevent
    exact hself _ _
  | case4 _ _ _ _ _ _ _ _ _ _ _ _ _ _ _ ih =>
    intro event hevent
    rcases List.mem_cons.mp hevent with rfl | hevent
    · exact hrefused
    · exact ih event hevent
  | case5 _ _ _ _ _ _ _ _ _ _ _ hname _ _ _ _ ih =>
    intro event hevent
    rcases List.mem_append.mp hevent with hevent | hevent
    · exact hsplice _ _ _ hname event hevent
    · exact ih event hevent

variable {allowed : Path → Prop}
  (hmalformed : ∀ path line, holds (.malformed path line))
  (hself : ∀ path line name, holds (.selfIncluded path line name)) (hrefused : holds .refused)
  (hopened : ∀ path source, allowed path →
    loadSource files config.maxSourceSize path = .ok source → holds (.opened path source))
  (hfailed : ∀ path fault, allowed path →
    loadSource files config.maxSourceSize path = .error fault → holds (.failed path fault))
  (hnames : ∀ onLine name, includeName? onLine = some name → allowed (config.path name))

include hmalformed hself hrefused hopened hfailed

/-- What holds of the events of reading a file, besides those at directives, holds of all events of
the walk over the file. -/
theorem readWith_events {splice : Nat → Path → Walk}
    (hsplice : ∀ budget onLine name, includeName? onLine = some name →
      ∀ event ∈ (splice budget (config.path name)).events, holds event)
    (budget : Nat) {path : Path} (hpath : allowed path) :
    ∀ event ∈ (readWith files config top splice budget path).events, holds event := by
  intro event hevent
  unfold readWith at hevent
  split at hevent
  · rename_i fault hload
    obtain rfl := List.mem_singleton.mp hevent
    exact hfailed path fault hpath hload
  · rename_i source hload
    rcases List.mem_cons.mp hevent with rfl | hevent
    · exact hopened path source hpath hload
    · exact expandText_events (hmalformed path) (hself path) hrefused hsplice _ _ _ event hevent

include hnames

/-- What holds of the events of reading a file, besides those at directives, holds of all events of
the walk over a tree of includes. -/
theorem expandFile_events (depth budget : Nat) {path : Path} (hpath : allowed path) :
    ∀ event ∈ (expandFile files config top depth budget path).events, holds event := by
  induction depth generalizing budget path with
  | zero =>
    exact readWith_events hmalformed hself hrefused hopened hfailed (by simp) budget hpath
  | succ depth ih =>
    refine readWith_events hmalformed hself hrefused hopened hfailed ?_ budget hpath
    intro budget onLine name hname
    exact ih budget (hnames onLine name hname)

/-- What holds of the events of reading a file, besides those at directives, holds of all events of
the walk over a top-level file. -/
theorem walkFile_events (budget : Int) (htop : allowed top) :
    ∀ event ∈ (walkFile files config top budget).events, holds event := by
  unfold walkFile
  split
  · intro event hevent
    obtain rfl := List.mem_singleton.mp hevent
    exact hrefused
  · exact expandFile_events hmalformed hself hrefused hopened hfailed hnames _ _ htop

end Shaderbox
