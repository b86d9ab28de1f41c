import NexusAgent.Permissions.Order

/-!
# The safety gate and answers it does not know

The model leg of the safety classifier answers a text, and `Classify`
(`internal/permissions/safety/safety.go`) hands that text on as a verdict without asking whether
it is one. `Resolve` (`internal/permissions/chain.go`) converts it to a decision and folds it like
any other layer's answer: a text that is no decision stops nothing and asks nothing.
-/

namespace NexusAgent.Permissions

/-! ### What the model leg gives back -/

def Verdict.ofText (text : String) : Verdict :=
  if text = "deny" then .deny
  else if text = "ask" then .ask
  else if text = "defer" then .defer
  else .other text

/-- What `ModelClassifier.Classify` does: it returns a text and a reason, it fails, or it does not
return in time. -/
inductive ModelAnswer
  | verdict (text reason : String)
  | error (err : String)
  | timeout

/-- The outcome of the leg that `Classify` sees. -/
def ModelAnswer.outcome : ModelAnswer → LegOutcome
  | .verdict text reason => .answered (Verdict.ofText text) reason
  | .error err => .failed err
  | .timeout => .timedOut

/-- A text that the safety package has no verdict for. `allow` is one of them, but `Resolve`
refuses it as a layer's answer. -/
def Foreign (text : String) : Prop := text ≠ "deny" ∧ text ≠ "ask" ∧ text ≠ "defer"

instance (text : String) : Decidable (Foreign text) := inferInstanceAs (Decidable (_ ∧ _))

lemma Verdict.ofText_of_foreign {text : String} (h : Foreign text) :
    Verdict.ofText text = .other text := by
  simp [Verdict.ofText, h.1, h.2.1, h.2.2]

/-- One classification: when the breaker is read, what the model leg does, and when its failure is
recorded. -/
structure Classification where
  now : ℕ
  answer : ModelAnswer
  after : ℕ

/-- What `Classify` sees of it. -/
def Classification.call (m : Classification) : SafetyCall :=
  { now := m.now, leg := m.answer.outcome, after := m.after }

namespace Classifier

/-- A safety rule matches the invocation. -/
def matchesRule (c : Classifier) (toolID rawInput : String) : Bool :=
  c.rules.any fun r => r.pattern (toolID ++ " " ++ rawInput)

/-- The model leg is asked, and its answer is a text. -/
def Answers (c : Classifier) (m : Classification) (text : String) : Prop :=
  c.breaker.isOpen m.now = false ∧ ∃ reason, m.answer = .verdict text reason

/-- What `Classify` answers when no rule matches: the leg's text, or an ask. -/
lemma classify_of_noRule {c : Classifier} {m : Classification} {toolID rawInput : String}
    (hrule : c.matchesRule toolID rawInput = false) :
    (∃ text, c.Answers m text ∧
      (c.classify m.call toolID rawInput).1.verdict = Verdict.ofText text) ∨
    (∀ text, ¬ c.Answers m text) ∧ (c.classify m.call toolID rawInput).1.verdict = .ask := by
  have hfind : c.rules.find? (fun r => r.pattern (toolID ++ " " ++ rawInput)) = none := by
    simpa [matchesRule] using hrule
  unfold classify
  rw [hfind]
  cases hopen : c.breaker.isOpen m.now with
  | true =>
    refine .inr ⟨fun text h => ?_, ?_⟩
    · rw [h.1] at hopen
      nomatch hopen
    · rw [show m.call.now = m.now from rfl, hopen]
      rfl
  | false =>
    rw [show m.call.now = m.now from rfl, hopen]
    rcases m with ⟨now, answer, after⟩
    cases answer with
    | verdict text reason => exact .inl ⟨text, ⟨hopen, reason, rfl⟩, rfl⟩
    | error | timeout => exact .inr ⟨fun text ⟨_, _, h⟩ => (nomatch h), rfl⟩

end Classifier

/-! ### Layers that do not object -/

/-- A layer's answer that neither ends the walk nor asks. -/
def Silent (o : LayerOutcome) : Prop :=
  o.decision ≠ .allow ∧ o.decision ≠ .deny ∧ o.decision ≠ .ask

lemma silent_of_defer {o : LayerOutcome} (h : o.decision = .defer) : Silent o := by
  rw [Silent, h]
  decide

lemma silent_resolveDenyRules (rules : List DenyRule) (toolID ns rawInput : String) :
    Silent (resolveDenyRules rules toolID ns rawInput) ↔
      ∀ r ∈ rules, r.matches toolID ns rawInput = false := by
  induction rules with
  | nil => simp [resolveDenyRules, Silent]
  | cons r rest ih =>
    unfold resolveDenyRules
    by_cases h : r.matches toolID ns rawInput = true
    · simp [h, Silent]
    · simp [h, ih]

lemma silent_resolveProfiles (profiles : List ToolProfile) (toolID : String) :
    Silent (resolveProfiles profiles toolID) ↔ ∃ p ∈ profiles, p.has toolID = true := by
  induction profiles with
  | nil => simp [resolveProfiles, Silent]
  | cons p rest ih =>
    unfold resolveProfiles
    by_cases h : p.has toolID = true
    · simp [h, Silent]
    · simp [h, ih]

/-- The pinned level, if any, leaves an effect alone. -/
def Request.AutonomyPermits (req : Request) : Prop :=
  ∀ a, req.autonomy = some a → req.effectClass = .readOnly ∨ a.level = .autonomous

lemma silent_autonomyOutcome (req : Request) :
    Silent (Chain.autonomyOutcome req) ↔ req.AutonomyPermits := by
  unfold Chain.autonomyOutcome Request.AutonomyPermits
  cases req.autonomy with
  | none => simp [Silent]
  | some a =>
    unfold Autonomy.resolve
    by_cases heffect : req.effectClass = .readOnly
    · simp [heffect, Silent]
    · cases hlevel : a.level <;> simp [heffect, hlevel, Silent]

lemma silent_resolveRuleOfTwo (state : TaintState) (t : Taint) :
    Silent (resolveRuleOfTwo state t).1 ↔ (state ⊔ legsFor t).engagedCount ≤ 2 := by
  unfold resolveRuleOfTwo
  rw [TaintState.union_eq_sup]
  by_cases h : 2 < (state ⊔ legsFor t).engagedCount
  · rw [if_pos h]
    exact iff_of_false (fun hsilent => hsilent.2.2 rfl) (Nat.not_le.2 h)
  · rw [if_neg h]
    exact iff_of_true (silent_of_defer rfl) (Nat.not_lt.1 h)

lemma silent_approvalPolicy (p : ApprovalPolicy) (effectClass : EffectClass) :
    Silent (p.resolve effectClass) ↔ p.requireAskFor effectClass = none := by
  unfold ApprovalPolicy.resolve
  cases p.requireAskFor effectClass <;> simp [Silent]

/-- Nothing but the safety gate objects to an invocation: no deny rule matches, the hooks and the
tool itself are silent, the pinned level permits the effect, a bound profile lists the tool, the
call's legs leave the session with at most two, and the approval policy asks for nothing. -/
structure Unopposed (c : Chain) (req : Request) : Prop where
  denyRules : ∀ r ∈ c.denyRules, r.matches req.toolID req.ns req.input = false
  hooks : Silent req.hookOutcome
  autonomy : req.AutonomyPermits
  profile : ∃ p ∈ c.profiles, p.has req.toolID = true
  capability : Silent req.gate2
  legs : (req.taintState ⊔ legsFor req.taint).engagedCount ≤ 2
  approval : c.approval.requireAskFor req.effectClass = none

lemma unopposed_iff (c : Chain) (call : SafetyCall) (req : Request) :
    Unopposed c req ↔
      ∀ l ∈ Layer.answering, l ≠ .gate3Safety → Silent (c.answer call req l) := by
  constructor
  · intro h l _ hgate
    cases l with
    | denyRules => exact (silent_resolveDenyRules _ _ _ _).2 h.denyRules
    | preToolUseHooks => exact h.hooks
    | autonomy => exact (silent_autonomyOutcome req).2 h.autonomy
    | gate1Profile => exact (silent_resolveProfiles _ _).2 h.profile
    | gate2Capability => exact h.capability
    | gate3Safety => exact absurd rfl hgate
    | ruleOfTwo => exact (silent_resolveRuleOfTwo _ _).2 h.legs
    | approvalPolicy => exact (silent_approvalPolicy _ _).2 h.approval
    | standingScope | fallbackAllow => exact silent_of_defer rfl
  · intro h
    exact {
      denyRules := (silent_resolveDenyRules _ _ _ _).1 (h .denyRules (by decide) nofun)
      hooks := h .preToolUseHooks (by decide) nofun
      autonomy := (silent_autonomyOutcome req).1 (h .autonomy (by decide) nofun)
      profile := (silent_resolveProfiles _ _).1 (h .gate1Profile (by decide) nofun)
      capability := h .gate2Capability (by decide) nofun
      legs := (silent_resolveRuleOfTwo _ _).1 (h .ruleOfTwo (by decide) nofun)
      approval := (silent_approvalPolicy _ _).1 (h .approvalPolicy (by decide) nofun) }

lemma Chain.answer_gate3Safety (c : Chain) (call : SafetyCall) (req : Request) :
    (c.answer call req .gate3Safety).decision =
      (c.safety.classify call req.toolID req.input).1.verdict.toDecision :=
  rfl

/-! ### Failing closed -/

/-- The gate fails closed at an invocation: if no safety rule matches and the model leg has not
answered one of the verdicts, then `Resolve` allows the call only by a standing scope that
satisfied an ask. -/
def FailsClosed (c : Chain) (m : Classification) (req : Request) : Prop :=
  c.safety.matchesRule req.toolID req.input = false →
  (∀ text, c.safety.Answers m text → Foreign text) →
  (c.resolve m.call req).1.1.resolution.decision = .allow →
    (c.resolve m.call req).1.1.resolution.layer = some .standingScope ∧ c.covered req = true

/-- The invocation goes through on a text that is neither a verdict nor `allow`. -/
def Overlooked (c : Chain) (m : Classification) (req : Request) : Prop :=
  c.safety.matchesRule req.toolID req.input = false ∧
    (∃ text, c.safety.Answers m text ∧ Foreign text ∧ text ≠ "allow") ∧ Unopposed c req

/-- What the safety gate answers at an overlooked invocation, and only there if nothing else
objects. -/
lemma overlooked_of_silent {c : Chain} {m : Classification} {req : Request}
    (hrule : c.safety.matchesRule req.toolID req.input = false)
    (hforeign : ∀ text, c.safety.Answers m text → Foreign text)
    (h : ∀ l ∈ Layer.answering, Silent (c.answer m.call req l)) : Overlooked c m req := by
  have hothers := (unopposed_iff c m.call req).2 fun l hl _ => h l hl
  have hgate : Silent (c.answer m.call req .gate3Safety) :=
    h .gate3Safety (by simp [Layer.answering])
  rcases Classifier.classify_of_noRule (m := m) hrule with ⟨text, htext, hverdict⟩ | ⟨-, hask⟩
  · refine ⟨hrule, ⟨text, htext, hforeign text htext, ?_⟩, hothers⟩
    rintro rfl
    rw [Silent, c.answer_gate3Safety, hverdict] at hgate
    exact hgate.1 rfl
  · rw [Silent, c.answer_gate3Safety, hask] at hgate
    exact absurd rfl hgate.2.2

lemma Overlooked.silent {c : Chain} {m : Classification} {req : Request}
    (h : Overlooked c m req) : ∀ l ∈ Layer.answering, Silent (c.answer m.call req l) := by
  obtain ⟨hrule, ⟨text, htext, hforeign, hallow⟩, hothers⟩ := h
  intro l hl
  by_cases hgate : l = .gate3Safety
  · subst hgate
    have hverdict : (c.safety.classify m.call req.toolID req.input).1.verdict =
        Verdict.ofText text := by
      rcases Classifier.classify_of_noRule (m := m) hrule with ⟨text', htext', hverdict⟩ | ⟨hno, -⟩
      · obtain ⟨_, hanswer⟩ := htext.2
        obtain ⟨_, hanswer'⟩ := htext'.2
        rw [hanswer] at hanswer'
        obtain ⟨rfl, -⟩ := ModelAnswer.verdict.inj hanswer'
        exact hverdict
      · exact absurd htext (hno text)
    rw [Silent, c.answer_gate3Safety, hverdict, Verdict.ofText_of_foreign hforeign]
    simp [Verdict.toDecision, hallow]
  · exact (unopposed_iff c m.call req).1 hothers l hl hgate

/-- The safety gate fails closed at every invocation except those that go through on a text that
it has no verdict for. -/
theorem failsClosed_iff (c : Chain) (m : Classification) (req : Request) :
    FailsClosed c m req ↔ ¬ Overlooked c m req := by
  constructor
  · intro hclosed hover
    have hsilent := hover.silent
    obtain ⟨hrule, ⟨text, htext, hforeign, -⟩, -⟩ := hover
    have hforeign' (text' : String) (h' : c.safety.Answers m text') : Foreign text' := by
      obtain ⟨_, hanswer⟩ := htext.2
      obtain ⟨_, hanswer'⟩ := h'.2
      rw [hanswer] at hanswer'
      obtain ⟨rfl, -⟩ := ModelAnswer.verdict.inj hanswer'
      exact hforeign
    -- with every layer silent, the walk ends in the fallback
    cases c.resolve_ends m.call req with
    | failed l hl hallow => exact (hsilent l hl).1 hallow
    | denied l hl hdeny => exact (hsilent l hl).2.1 hdeny
    | asked _ l hl hask | satisfied _ l hl hask => exact (hsilent l hl).2.2 hask
    | unopposed _ _ hdecision hlayer =>
      have hscope := (hclosed hrule hforeign' hdecision).1
      rw [hlayer] at hscope
      nomatch hscope
  · intro hover hrule hforeign hallow
    cases c.resolve_ends m.call req with
    | failed _ _ _ _ hne => exact absurd hallow hne
    | denied _ _ _ hdecision | asked _ _ _ _ _ hdecision => nomatch hdecision.symm.trans hallow
    | satisfied _ _ _ _ hcovered _ hlayer => exact ⟨hlayer, hcovered⟩
    | unopposed hpass hnone =>
      refine absurd (overlooked_of_silent hrule hforeign fun l hl => ?_) hover
      exact ⟨(hpass l hl).1, (hpass l hl).2, hnone l hl⟩

/-! ### An overlooked invocation -/

/-- One profile, which lists a tool, and nothing else. -/
def openChain : Chain where
  denyRules := []
  profiles := [{ name := "default", version := 1, tools := ["platform/shell@v1"] }]
  approval := { requireAskFor := fun _ => none }
  standingScopes := []
  safety := { rules := [] }

/-- A call of that tool, by a session that may do everything by itself. -/
def shellCall : Request where
  toolID := "platform/shell@v1"
  ns := "platform"
  effectClass := .mutating
  taint := ⟨false, false, false⟩
  input := "\x7b\"command\":\"ls\"\x7d"
  autonomy := some ⟨.autonomous⟩
  hookOutcome := { decision := .defer }
  gate2 := { decision := .defer }
  taintState := {}

/-- The model leg answers that the call is `unsafe`, and the call is allowed. -/
theorem foreignVerdict_allows :
    openChain.safety.matchesRule shellCall.toolID shellCall.input = false ∧
      openChain.safety.Answers ⟨0, .verdict "unsafe" "deletes files", 0⟩ "unsafe" ∧
      Foreign "unsafe" ∧
      (openChain.resolve (Classification.call ⟨0, .verdict "unsafe" "deletes files", 0⟩)
        shellCall).1.1.resolution =
          { decision := .allow, layer := some .fallbackAllow, reason := "no layer objected" } ∧
      ¬ FailsClosed openChain ⟨0, .verdict "unsafe" "deletes files", 0⟩ shellCall := by
  refine ⟨rfl, ⟨rfl, _, rfl⟩, by decide, by decide, fun h => ?_⟩
  have hscope := h rfl (fun text ⟨_, _, htext⟩ => ?_) (by decide)
  · exact absurd hscope.1 (by decide)
  · obtain ⟨rfl, -⟩ := ModelAnswer.verdict.inj htext
    decide

end NexusAgent.Permissions
