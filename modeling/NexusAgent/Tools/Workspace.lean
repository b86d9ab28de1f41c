import NexusAgent.Go.Strings

/-!
# Paths of the workspace

The file tools map the path that they are given onto the workspace of the session
(`internal/tools/builtin/workspace.go`).
-/

namespace Go

def isAbs (path : List Char) : Bool := path.head? = some '/'

/-- The components of a path so far, the last one first, and one more. -/
def cleanStep (rooted : Bool) (out : List (List Char)) (c : List Char) : List (List Char) :=
  if c = [] ∨ c = ['.'] then out
  else if c ≠ ['.', '.'] then c :: out
  else match out with
    | [] => if rooted then [] else [c]
    | d :: rest => if d = c then c :: out else rest

/-- `filepath.Clean`. -/
def clean (path : List Char) : List Char :=
  let out := (path.splitOn '/').foldl (cleanStep (isAbs path)) []
  let text := ['/'].intercalate out.reverse
  if isAbs path then '/' :: text else if text = [] then ['.'] else text

/-- `filepath.Join`, with a first element that is not empty. -/
def join (a b : List Char) : List Char := clean (a ++ '/' :: b)

/-- `filepath.Abs`, given the working directory. -/
def abs (getwd : Except String (List Char)) (path : List Char) : Except String (List Char) :=
  if isAbs path then .ok (clean path) else getwd.map (join · path)

end Go

namespace NexusAgent.Tools

def resolveWorkspacePath (getwd : Except String (List Char)) (workspaceDir relPath : List Char) :
    Except String (List Char) :=
  if workspaceDir = [] then .error "no workspace directory configured for this session"
  else if relPath = [] then .error "path is required"
  else
    let full := Go.join workspaceDir (Go.clean ('/' :: relPath))
    match Go.abs getwd workspaceDir with
    | .error err => .error ("resolve workspace directory: " ++ err)
    | .ok absWorkspace =>
      match Go.abs getwd full with
      | .error err => .error ("resolve path: " ++ err)
      | .ok absFull =>
        if absFull ≠ absWorkspace ∧ ¬ absWorkspace ++ ['/'] <+: absFull then
          .error ("path " ++ Go.quote (String.ofList relPath) ++ " escapes the session workspace")
        else .ok absFull

/-- A component of a clean path. -/
structure Proper (c : List Char) : Prop where
  ne_nil : c ≠ []
  ne_dot : c ≠ ['.']
  ne_dots : c ≠ ['.', '.']
  undivided : '/' ∉ c

def rooted (cs : List (List Char)) : List Char := '/' :: ['/'].intercalate cs

lemma undivided_of_mem_splitOn (t : List Char) : ∀ c ∈ t.splitOn '/', '/' ∉ c := by
  induction t with
  | nil => simp
  | cons a t ih =>
    rw [List.splitOn] at ih ⊢
    rw [List.splitOnP_cons_eq_if_modifyHead]
    cases hs : t.splitOnP (· == '/') <;> grind [List.modifyHead]

lemma clean_proper {t : List Char} (h : Go.isAbs t) :
    ∃ cs, (∀ c ∈ cs, Proper c) ∧ Go.clean t = rooted cs := by
  refine ⟨((t.splitOn '/').foldl (Go.cleanStep true) []).reverse, ?_, ?_⟩
  · simp only [List.mem_reverse]
    have hundivided := undivided_of_mem_splitOn t
    refine List.foldlRecOn (motive := fun out => ∀ c ∈ out, Proper c) _ _ (by simp)
      fun out hout c hc => ?_
    have := hundivided c hc
    unfold Go.cleanStep
    grind [Proper]
  · simp [Go.clean, h, rooted]

/-- A path that begins with another one has its components at the beginning. -/
lemma components_of_isPrefix {dir cs : List (List Char)} (hdir : ∀ c ∈ dir, '/' ∉ c)
    (hcs : ∀ c ∈ cs, '/' ∉ c) (h : rooted dir ++ ['/'] <+: rooted cs) : dir <+: cs := by
  by_cases hnil : dir = []
  · simp [hnil]
  obtain ⟨r, hr⟩ := h
  have hr : ['/'].intercalate cs = ['/'].intercalate dir ++ '/' :: r := by
    simpa [rooted] using hr.symm
  have hsplit : List.splitOn '/' _ = List.splitOn '/' _ ++ List.splitOn '/' r :=
    List.splitOnP_append_cons (['/'].intercalate dir) r (BEq.rfl : ('/' == '/') = true)
  rw [← hr, List.splitOn_intercalate '/' hdir hnil,
    List.splitOn_intercalate '/' hcs (by rintro rfl; simp at hr)] at hsplit
  exact ⟨_, hsplit.symm⟩

/-- A path that is not refused has the components of the workspace directory and, after them,
components that lead down. -/
theorem resolveWorkspacePath_below {getwd : Except String (List Char)}
    {workspaceDir relPath p : List Char} (habs : Go.isAbs workspaceDir)
    (hclean : Go.clean workspaceDir = workspaceDir)
    (h : resolveWorkspacePath getwd workspaceDir relPath = .ok p) :
    ∃ dir below, (∀ c ∈ dir ++ below, Proper c) ∧ workspaceDir = rooted dir ∧
      p = rooted (dir ++ below) := by
  obtain ⟨dir, hdir, heq⟩ := clean_proper habs
  rw [hclean] at heq
  have hroot (cs : List (List Char)) : Go.isAbs (rooted cs) := rfl
  have hfull : Go.isAbs (workspaceDir ++ '/' :: Go.clean ('/' :: relPath)) := heq ▸ rfl
  obtain ⟨cs₀, -, hcs₀⟩ := clean_proper hfull
  obtain ⟨cs, hcs, hp⟩ := clean_proper (hroot cs₀)
  unfold resolveWorkspacePath Go.join at h
  simp only [Go.abs, habs, hclean, hcs₀, hroot, hp, if_true] at h
  split_ifs at h with _ _ hbelow
  obtain rfl := Except.ok.inj h
  by_cases hsame : rooted cs = workspaceDir
  · exact ⟨dir, [], by simpa using hdir, heq, by rw [hsame, heq, List.append_nil]⟩
  · obtain ⟨below, rfl⟩ := components_of_isPrefix (fun c hc => (hdir c hc).undivided)
      (fun c hc => (hcs c hc).undivided) (heq ▸ not_not.1 fun h => hbelow ⟨hsame, h⟩)
    exact ⟨dir, below, hcs, heq, rfl⟩

theorem dots_below : ∃ dir below, (∀ c ∈ dir ++ below, Proper c) ∧ "/w".toList = rooted dir ∧
    "/w/a".toList = rooted (dir ++ below) :=
  resolveWorkspacePath_below rfl (by decide +kernel)
    (by decide +kernel : resolveWorkspacePath (.error "") "/w".toList "../a".toList =
      .ok "/w/a".toList)

end NexusAgent.Tools
