import NexusAgent.Permissions.Chain

/-!
# The published order of the permission chain

`FollowsOrder` states the order a permission decision is published to have, over the answers
of the layers and with no walk in it: an allow not preceded by a deny is an error, the
lowest denying layer is final, the lowest asking layer binds unless a standing scope covers
the call, and with no objection the call is allowed.
-/

namespace NexusAgent.Permissions

/-! ### Folding one answer -/

section Fold

variable {taint : TaintState} {l : Layer} {o : LayerOutcome} {acc : Resolution}

/-- The resolution that records the ask `o` of layer `l`. -/
def askResolution (l : Layer) (o : LayerOutcome) : Resolution :=
  { decision := .ask, layer := some l, reason := o.reason, askKind := o.askKind }

/-- The resolution that records the deny `o` of layer `l`. -/
def denyResolution (l : Layer) (o : LayerOutcome) : Resolution :=
  { decision := .deny, layer := some l, reason := o.reason }

lemma fold_of_allow (h : o.decision = .allow) :
    ∃ err, fold taint l o acc = .error (⟨acc, taint⟩, some err) := by
  simp [fold, guardNotAllow, h]

lemma fold_of_deny (h : o.decision = .deny) :
    fold taint l o acc = .error (⟨denyResolution l o, taint⟩, none) := by
  simp [fold, guardNotAllow, h, denyResolution]

lemma fold_of_ask (h : o.decision = .ask) :
    fold taint l o acc =
      .ok (if acc.decision = .ask then acc else askResolution l o) := by
  by_cases hacc : acc.decision = .ask <;>
    simp [fold, guardNotAllow, h, hacc, askResolution]

lemma fold_of_pass (hallow : o.decision ≠ .allow) (hdeny : o.decision ≠ .deny)
    (hask : o.decision ≠ .ask) : fold taint l o acc = .ok acc := by
  simp only [fold, guardNotAllow, if_neg hallow]

end Fold

/-! ### Walks -/

section Walk

variable (ans : Layer → LayerOutcome) (taint : Layer → TaintState)

/-- No layer of `ls` ends a walk. -/
def Passed (ls : List Layer) : Prop :=
  ∀ l ∈ ls, (ans l).decision ≠ .allow ∧ (ans l).decision ≠ .deny

def asks (l : Layer) : Bool := decide ((ans l).decision = .ask)

/-- The resolution after layers that all passed: the ask already held, or else the first
ask among them. -/
def raised (ls : List Layer) (acc : Resolution) : Resolution :=
  if acc.decision = .ask then acc
  else match ls.find? (asks ans) with
    | some l => askResolution l (ans l)
    | none => acc

variable {ans}

lemma Passed.cons {l : Layer} {ls : List Layer} (hallow : (ans l).decision ≠ .allow)
    (hdeny : (ans l).decision ≠ .deny) (h : Passed ans ls) : Passed ans (l :: ls) := by
  intro l' hl'
  rcases List.mem_cons.1 hl' with rfl | hmem
  · exact ⟨hallow, hdeny⟩
  · exact h l' hmem

variable (ans)

/-- A walk returns an error at the first layer that allows, a deny at the first layer that
denies, and otherwise holds the first ask. -/
theorem walk_cases (ls : List Layer) (acc : Resolution) :
    (∃ before l after, ls = before ++ l :: after ∧ Passed ans before ∧
      (ans l).decision = .allow ∧
      ∃ err, walk ans taint ls acc = .error (⟨raised ans before acc, taint l⟩, some err)) ∨
    (∃ before l after, ls = before ++ l :: after ∧ Passed ans before ∧
      (ans l).decision = .deny ∧
      walk ans taint ls acc = .error (⟨denyResolution l (ans l), taint l⟩, none)) ∨
    (Passed ans ls ∧ walk ans taint ls acc = .ok (raised ans ls acc)) := by
  induction ls generalizing acc with
  | nil =>
    refine .inr (.inr ⟨by simp [Passed], ?_⟩)
    simp [walk, raised, pure, Except.pure]
  | cons l ls ih =>
    by_cases hallow : (ans l).decision = .allow
    · obtain ⟨err, herr⟩ : ∃ err, fold (taint l) l (ans l) acc =
          .error (⟨acc, taint l⟩, some err) := fold_of_allow hallow
      refine .inl ⟨[], l, ls, rfl, by simp [Passed], hallow, err, ?_⟩
      simp [walk, herr, raised, bind, Except.bind]
    by_cases hdeny : (ans l).decision = .deny
    · refine .inr (.inl ⟨[], l, ls, rfl, by simp [Passed], hdeny, ?_⟩)
      simp [walk, fold_of_deny hdeny, bind, Except.bind]
    -- the layer passes: the walk goes on from the resolution `acc'` it leaves
    obtain ⟨acc', hacc', hraised⟩ : ∃ acc', fold (taint l) l (ans l) acc = .ok acc' ∧
        ∀ ls, raised ans ls acc' = raised ans (l :: ls) acc := by
      by_cases hask : (ans l).decision = .ask
      · refine ⟨_, fold_of_ask hask, fun ls => ?_⟩
        by_cases hacc : acc.decision = .ask
        · simp [raised, hacc]
        · simp [raised, hacc, asks, hask, askResolution]
      · refine ⟨acc, fold_of_pass hallow hdeny hask, fun ls => ?_⟩
        simp [raised, asks, hask]
    have hwalk : walk ans taint (l :: ls) acc = walk ans taint ls acc' := by
      simp [walk, hacc', bind, Except.bind]
    rw [hwalk]
    rcases ih acc' with ⟨before, l', after, rfl, hpass, hl', err, h⟩ |
        ⟨before, l', after, rfl, hpass, hl', h⟩ | ⟨hpass, h⟩
    · rw [hraised] at h
      exact .inl ⟨l :: before, l', after, rfl, hpass.cons hallow hdeny, hl', err, h⟩
    · exact .inr (.inl ⟨l :: before, l', after, rfl, hpass.cons hallow hdeny, hl', h⟩)
    · exact .inr (.inr ⟨hpass.cons hallow hdeny, by rw [h, hraised]⟩)

end Walk

/-! ### The order -/

/-- `l` is the lowest-numbered of the layers 1 to 8 with `p`. -/
def IsLowest (p : Layer → Prop) (l : Layer) : Prop :=
  l.num ≤ 8 ∧ p l ∧ ∀ l' : Layer, l'.num < l.num → ¬ p l'

def AllowsFirst (ans : Layer → LayerOutcome) : Prop :=
  ∃ l : Layer, l.num ≤ 8 ∧ (ans l).decision = .allow ∧
    ∀ l' : Layer, l'.num < l.num → (ans l').decision ≠ .deny

/-- The published order of a permission decision, for the answers `ans` of the layers 1 to
8, the Rule-of-Two states `state` before and `next` after the call's own legs, and
`covered`, which says whether a standing scope covers the call. -/
structure FollowsOrder (ans : Layer → LayerOutcome) (covered : Bool) (state next : TaintState)
    (out : Return) : Prop where
  error : AllowsFirst ans → out.2.isSome
  no_error : ¬ AllowsFirst ans → out.2 = none
  deny : ¬ AllowsFirst ans → ∀ l, IsLowest (fun l => (ans l).decision = .deny) l →
    out.1.resolution = denyResolution l (ans l)
  ask : ¬ AllowsFirst ans → (∀ l : Layer, l.num ≤ 8 → (ans l).decision ≠ .deny) →
    ∀ l, IsLowest (fun l => (ans l).decision = .ask) l →
      if covered then
        out.1.resolution.decision = .allow ∧ out.1.resolution.layer = some .standingScope
      else out.1.resolution = askResolution l (ans l)
  allow : ¬ AllowsFirst ans → (∀ l : Layer, l.num ≤ 8 → (ans l).decision ≠ .deny) →
    (∀ l : Layer, l.num ≤ 8 → (ans l).decision ≠ .ask) →
      out.1.resolution.decision = .allow ∧ out.1.resolution.layer = some .fallbackAllow
  /-- The Rule-of-Two state advances when layers 1 to 6 neither deny nor err. -/
  taint_next : (∀ l : Layer, l.num ≤ 6 →
    (ans l).decision ≠ .allow ∧ (ans l).decision ≠ .deny) → out.1.taintState = next
  taint_same : ¬ (∀ l : Layer, l.num ≤ 6 →
    (ans l).decision ≠ .allow ∧ (ans l).decision ≠ .deny) → out.1.taintState = state

lemma Layer.mem_answering {l : Layer} : l ∈ Layer.answering ↔ l.num ≤ 8 := by
  cases l <;> simp [Layer.answering, Layer.num]

lemma Layer.num_injective : Function.Injective Layer.num := by
  intro l l' h
  cases l <;> cases l' <;> first | rfl | simp [Layer.num] at h

lemma Layer.pairwise_answering : Layer.answering.Pairwise fun l l' => l.num < l'.num := by
  simp [Layer.answering, Layer.num]

/-- The layers in front of `l` are those with a lower number. -/
lemma Layer.mem_before {before after : List Layer} {l : Layer}
    (h : Layer.answering = before ++ l :: after) (l' : Layer) :
    l' ∈ before ↔ l'.num < l.num := by
  have hsorted := h ▸ Layer.pairwise_answering
  rw [List.pairwise_append, List.pairwise_cons] at hsorted
  obtain ⟨-, ⟨hafter, -⟩, hbefore⟩ := hsorted
  constructor
  · intro hmem
    exact hbefore l' hmem l (by simp)
  · intro hlt
    have hl : l.num ≤ 8 := Layer.mem_answering.1 (by simp [h])
    have hmem : l' ∈ before ++ l :: after := h ▸ Layer.mem_answering.2 (by omega)
    rcases List.mem_append.1 hmem with hb | ha
    · exact hb
    rcases List.mem_cons.1 ha with rfl | ha
    · omega
    · have := hafter l' ha
      omega

lemma IsLowest.unique {p : Layer → Prop} {l l' : Layer} (h : IsLowest p l)
    (h' : IsLowest p l') : l = l' := by
  rcases Nat.lt_trichotomy l.num l'.num with hlt | heq | hgt
  · exact absurd h.2.1 (h'.2.2 l hlt)
  · exact Layer.num_injective heq
  · exact absurd h'.2.1 (h.2.2 l' hgt)

section Returns

variable {ans : Layer → LayerOutcome} {before after : List Layer} {l : Layer}

section

variable (hsplit : Layer.answering = before ++ l :: after)
include hsplit

/-- A layer that is passed before `l` neither allows nor denies. -/
lemma Passed.of_lt (hpass : Passed ans before) {l' : Layer} (h : l'.num < l.num) :
    (ans l').decision ≠ .allow ∧ (ans l').decision ≠ .deny :=
  hpass l' ((Layer.mem_before hsplit l').2 h)

lemma Layer.num_le_of_split : l.num ≤ 8 :=
  Layer.mem_answering.1 (by simp [hsplit])

/-- Layers 1 to 6 neither allow nor deny exactly when the walk ends after them. -/
lemma Passed.le_six_iff (hpass : Passed ans before)
    (hl : (ans l).decision = .allow ∨ (ans l).decision = .deny) :
    (∀ l' : Layer, l'.num ≤ 6 → (ans l').decision ≠ .allow ∧ (ans l').decision ≠ .deny) ↔
      ¬ l.num ≤ 6 := by
  constructor
  · intro h hle
    rcases hl with hl | hl
    · exact (h l hle).1 hl
    · exact (h l hle).2 hl
  · intro hlt l' hl'
    exact hpass.of_lt hsplit (by omega)

lemma followsOrder_of_error {covered : Bool} {state next : TaintState} {out : Return}
    (hpass : Passed ans before) (hl : (ans l).decision = .allow) (herr : out.2.isSome)
    (htaint : out.1.taintState = if l.num ≤ 6 then state else next) :
    FollowsOrder ans covered state next out := by
  have hfirst : AllowsFirst ans :=
    ⟨l, Layer.num_le_of_split hsplit, hl, fun l' h => (hpass.of_lt hsplit h).2⟩
  have hsix := hpass.le_six_iff hsplit (.inl hl)
  exact {
    error := fun _ => herr
    no_error := fun h => absurd hfirst h
    deny := fun h => absurd hfirst h
    ask := fun h => absurd hfirst h
    allow := fun h => absurd hfirst h
    taint_next := fun h => by rw [htaint, if_neg (hsix.1 h)]
    taint_same := fun h => by rw [htaint, if_pos (not_not.1 (mt hsix.2 h))] }

lemma followsOrder_of_deny {covered : Bool} {state next : TaintState} {out : Return}
    (hpass : Passed ans before) (hl : (ans l).decision = .deny) (herr : out.2 = none)
    (hres : out.1.resolution = denyResolution l (ans l))
    (htaint : out.1.taintState = if l.num ≤ 6 then state else next) :
    FollowsOrder ans covered state next out := by
  have hle := Layer.num_le_of_split hsplit
  have hnot : ¬ AllowsFirst ans := by
    rintro ⟨a, _, ha, hbefore⟩
    -- an allowing layer is neither `l` nor, being passed, in front of it
    rcases Nat.lt_trichotomy a.num l.num with hlt | heq | hgt
    · exact (hpass.of_lt hsplit hlt).1 ha
    · obtain rfl := Layer.num_injective heq
      rw [hl] at ha
      exact absurd ha (by decide)
    · exact hbefore l hgt hl
  have hsix := hpass.le_six_iff hsplit (.inr hl)
  exact {
    error := fun h => absurd h hnot
    no_error := fun _ => herr
    deny := by
      intro _ d hd
      rw [hd.unique ⟨hle, hl, fun l' h => (hpass.of_lt hsplit h).2⟩, hres]
    ask := fun _ h => absurd hl (h l hle)
    allow := fun _ h => absurd hl (h l hle)
    taint_next := fun h => by rw [htaint, if_neg (hsix.1 h)]
    taint_same := fun h => by rw [htaint, if_pos (not_not.1 (mt hsix.2 h))] }

end

lemma isLowest_of_find? (h : Layer.answering.find? (asks ans) = some l) :
    IsLowest (fun l => (ans l).decision = .ask) l := by
  obtain ⟨hask, before, after, hsplit, hbefore⟩ := List.find?_eq_some_iff_append.1 h
  refine ⟨Layer.num_le_of_split hsplit, of_decide_eq_true hask, ?_⟩
  intro l' hlt
  have hmem := (Layer.mem_before hsplit l').2 hlt
  simpa [asks] using hbefore l' hmem

lemma Chain.followsOrder_resolveFinal (c : Chain) (req : Request)
    (hpass : Passed ans Layer.answering) :
    FollowsOrder ans (c.covered req) req.taintState
      (resolveRuleOfTwo req.taintState req.taint).2
      (c.resolveFinal req (raised ans Layer.answering { decision := .defer })) := by
  have hpassed (l : Layer) (hl : l.num ≤ 8) :
      (ans l).decision ≠ .allow ∧ (ans l).decision ≠ .deny :=
    hpass l (Layer.mem_answering.2 hl)
  have hnot : ¬ AllowsFirst ans := fun ⟨l, hl, ha, _⟩ => (hpassed l hl).1 ha
  cases hfind : Layer.answering.find? (asks ans) with
  | none =>
    have hnone (l : Layer) (hl : l.num ≤ 8) : (ans l).decision ≠ .ask := by
      simpa [asks] using List.find?_eq_none.1 hfind l (Layer.mem_answering.2 hl)
    have hout : c.resolveFinal req (raised ans Layer.answering { decision := .defer }) =
        (⟨{ decision := .allow, layer := some .fallbackAllow, reason := "no layer objected" },
          (resolveRuleOfTwo req.taintState req.taint).2⟩, none) := by
      simp [raised, hfind, resolveFinal]
    rw [hout]
    exact {
      error := fun h => absurd h hnot
      no_error := fun _ => rfl
      deny := fun _ l h => absurd h.2.1 (hpassed l h.1).2
      ask := fun _ _ l h => absurd h.2.1 (hnone l h.1)
      allow := fun _ _ _ => ⟨rfl, rfl⟩
      taint_next := fun _ => rfl
      taint_same := fun h => absurd (fun l hl => hpassed l (by omega)) h }
  | some l =>
    have hlow := isLowest_of_find? hfind
    have hout : c.resolveFinal req (raised ans Layer.answering { decision := .defer }) =
        c.resolveFinal req (askResolution l (ans l)) := by
      simp [raised, hfind]
    have htaint : (c.resolveFinal req (askResolution l (ans l))).1.taintState =
        (resolveRuleOfTwo req.taintState req.taint).2 := by
      simp only [resolveFinal, askResolution, if_true]
      split <;> rfl
    have herr : (c.resolveFinal req (askResolution l (ans l))).2 = none := by
      simp only [resolveFinal, askResolution, if_true]
      split <;> rfl
    rw [hout]
    exact {
      error := fun h => absurd h hnot
      no_error := fun _ => herr
      deny := fun _ l h => absurd h.2.1 (hpassed l h.1).2
      ask := by
        intro _ _ l' hl'
        obtain rfl := hl'.unique hlow
        cases hscope : c.standingScopes.find? fun scope => scope.covers req.toolID req.ns with
        | none =>
          have hcov : c.covered req = false := by
            simpa [Chain.covered] using hscope
          simp [hcov, resolveFinal, askResolution, hscope]
        | some scope =>
          have hcovers := List.find?_some hscope
          have hcov : c.covered req = true :=
            List.any_eq_true.2 ⟨scope, List.mem_of_find?_eq_some hscope, hcovers⟩
          simp [hcov, resolveFinal, askResolution, hscope]
      allow := fun _ _ h => absurd hlow.2.1 (h l hlow.1)
      taint_next := fun _ => htaint
      taint_same := fun h => absurd (fun l hl => hpassed l (by omega)) h }

end Returns

/-- Whatever `resolve` returns, no leg that was engaged going in is lost. -/
lemma Chain.taintState_le_resolve (c : Chain) (call : SafetyCall) (req : Request) :
    req.taintState ≤ (c.resolve call req).1.1.taintState := by
  have hnext : req.taintState ≤ (resolveRuleOfTwo req.taintState req.taint).2 := by
    rw [resolveRuleOfTwo_snd]
    exact le_sup_left
  have htaintAt (l : Layer) : req.taintState ≤ taintAt req l := by
    unfold taintAt
    split
    · exact le_rfl
    · exact hnext
  rw [c.resolve_eq_walk]
  -- a return in the walk carries the state of its layer, the last layers carry the successor
  rcases walk_cases (c.answer call req) (taintAt req) Layer.answering { decision := .defer } with
      ⟨before, l, after, -, -, -, err, hwalk⟩ | ⟨before, l, after, -, -, -, hwalk⟩ | ⟨-, hwalk⟩
  all_goals rw [hwalk]
  · exact htaintAt l
  · exact htaintAt l
  · show req.taintState ≤ (c.resolveFinal req _).1.taintState
    unfold resolveFinal
    split
    · split <;> exact hnext
    · exact hnext

lemma Chain.answer_ne_deny {c : Chain} {call : SafetyCall} {req : Request}
    (hok : (c.resolve call req).1.2 = none)
    (hdecision : (c.resolve call req).1.1.resolution.decision ≠ .deny) (l : Layer)
    (hl : l ∈ Layer.answering) : (c.answer call req l).decision ≠ .deny := by
  rw [c.resolve_eq_walk] at hok hdecision
  rcases walk_cases (c.answer call req) (taintAt req) Layer.answering { decision := .defer } with
      ⟨before, l', after, hsplit, hpass, hl', err, hwalk⟩ |
      ⟨before, l', after, hsplit, hpass, hl', hwalk⟩ | ⟨hpass, hwalk⟩
  · rw [hwalk] at hok
    nomatch hok
  · rw [hwalk] at hdecision
    exact absurd rfl hdecision
  · exact (hpass l hl).2

/-- Permission resolution refines its published order: for every configuration, request and
state of the safety classifier, what `resolve` returns is what the published order says for
the layers' answers. -/
theorem Chain.resolve_followsOrder (c : Chain) (call : SafetyCall) (req : Request) :
    FollowsOrder (c.answer call req) (c.covered req) req.taintState
      (resolveRuleOfTwo req.taintState req.taint).2 (c.resolve call req).1 := by
  rw [c.resolve_eq_walk]
  rcases walk_cases (c.answer call req) (taintAt req) Layer.answering { decision := .defer } with
      ⟨before, l, after, hsplit, hpass, hl, err, hwalk⟩ |
      ⟨before, l, after, hsplit, hpass, hl, hwalk⟩ | ⟨hpass, hwalk⟩ <;> rw [hwalk]
  · exact followsOrder_of_error hsplit hpass hl rfl rfl
  · exact followsOrder_of_deny hsplit hpass hl rfl rfl rfl
  · exact c.followsOrder_resolveFinal req hpass

/-! ### How a resolution ends -/

lemma raised_ne_allow (ans : Layer → LayerOutcome) (ls : List Layer) {acc : Resolution}
    (hacc : acc.decision ≠ .allow) : (raised ans ls acc).decision ≠ .allow := by
  unfold raised
  split_ifs
  · exact hacc
  · split
    · rintro ⟨⟩
    · exact hacc

/-- The ways in which a resolution ends, for the answers `ans` of the layers: it fails, a layer
denies, a layer asks and no standing scope covers the call, one does, or no layer objects. -/
inductive Ends (ans : Layer → LayerOutcome) (covered : Bool) (next : TaintState) (out : Return) :
    Prop
  | failed (l : Layer) (hl : l ∈ Layer.answering) (hallow : (ans l).decision = .allow)
      (herr : out.2.isSome) (hne : out.1.resolution.decision ≠ .allow)
  | denied (l : Layer) (hl : l ∈ Layer.answering) (hdeny : (ans l).decision = .deny)
      (hdecision : out.1.resolution.decision = .deny)
  | asked (hpass : Passed ans Layer.answering) (l : Layer) (hl : l ∈ Layer.answering)
      (hask : (ans l).decision = .ask) (hcovered : covered = false)
      (hdecision : out.1.resolution.decision = .ask)
  | satisfied (hpass : Passed ans Layer.answering) (l : Layer) (hl : l ∈ Layer.answering)
      (hask : (ans l).decision = .ask) (hcovered : covered = true)
      (hdecision : out.1.resolution.decision = .allow)
      (hlayer : out.1.resolution.layer = some .standingScope) (htaint : out.1.taintState = next)
  | unopposed (hpass : Passed ans Layer.answering)
      (hnone : ∀ l ∈ Layer.answering, (ans l).decision ≠ .ask)
      (hdecision : out.1.resolution.decision = .allow)
      (hlayer : out.1.resolution.layer = some .fallbackAllow) (htaint : out.1.taintState = next)

/-- How `resolve` ends. -/
theorem Chain.resolve_ends (c : Chain) (call : SafetyCall) (req : Request) :
    Ends (c.answer call req) (c.covered req) (resolveRuleOfTwo req.taintState req.taint).2
      (c.resolve call req).1 := by
  rw [c.resolve_eq_walk]
  rcases walk_cases (c.answer call req) (taintAt req) Layer.answering { decision := .defer } with
      ⟨before, l, after, hsplit, hpass, hl, err, hwalk⟩ |
      ⟨before, l, after, hsplit, hpass, hl, hwalk⟩ | ⟨hpass, hwalk⟩ <;> rw [hwalk]
  · exact .failed l (by simp [hsplit]) hl rfl (raised_ne_allow _ _ (by decide))
  · exact .denied l (by simp [hsplit]) hl rfl
  -- no layer ends the walk, so that the published order says what its asks come to
  · have horder := c.followsOrder_resolveFinal req hpass
    have hpassed (l : Layer) (hl : l.num ≤ 8) := hpass l (Layer.mem_answering.2 hl)
    have hnot : ¬ AllowsFirst (c.answer call req) := fun ⟨l, hl, ha, _⟩ => (hpassed l hl).1 ha
    have htaint := horder.taint_next fun l hl => hpassed l (by omega)
    cases hfind : Layer.answering.find? (asks (c.answer call req)) with
    | none =>
      have hnone (l : Layer) (hl : l ∈ Layer.answering) :
          (c.answer call req l).decision ≠ .ask := by
        simpa [asks] using List.find?_eq_none.1 hfind l hl
      obtain ⟨hdecision, hlayer⟩ := horder.allow hnot (fun l hl => (hpassed l hl).2)
        fun l hl => hnone l (Layer.mem_answering.2 hl)
      exact .unopposed hpass hnone hdecision hlayer htaint
    | some l =>
      have hlow := isLowest_of_find? hfind
      have hask := horder.ask hnot (fun l hl => (hpassed l hl).2) l hlow
      cases hcovered : c.covered req with
      | true =>
        rw [hcovered, if_pos rfl] at hask
        exact .satisfied hpass l (Layer.mem_answering.2 hlow.1) hlow.2.1 rfl hask.1 hask.2 htaint
      | false =>
        rw [hcovered, if_neg Bool.false_ne_true] at hask
        exact .asked hpass l (Layer.mem_answering.2 hlow.1) hlow.2.1 rfl (hask ▸ rfl)

/-- A request that no layer refuses engages the legs of its tool, also if it is asked about. -/
lemma Chain.resolve_taintState (c : Chain) {call : SafetyCall} {req : Request}
    (hpass : Passed (c.answer call req) Layer.answering) :
    (c.resolve call req).1.1.taintState = req.taintState ⊔ legsFor req.taint := by
  have hrefused {before after : List Layer} {l : Layer}
      (hsplit : Layer.answering = before ++ l :: after) := hpass l (by simp [hsplit])
  rw [c.resolve_eq_walk, ← resolveRuleOfTwo_snd]
  rcases walk_cases (c.answer call req) (taintAt req) Layer.answering { decision := .defer } with
      ⟨_, l, _, hsplit, -, hallow, -⟩ | ⟨_, l, _, hsplit, -, hdeny, -⟩ | ⟨-, hwalk⟩
  · exact absurd hallow (hrefused hsplit).1
  · exact absurd hdeny (hrefused hsplit).2
  · rw [hwalk]
    exact (c.followsOrder_resolveFinal req hpass).taint_next fun l hl =>
      hpass l (Layer.mem_answering.2 (by omega))

end NexusAgent.Permissions
