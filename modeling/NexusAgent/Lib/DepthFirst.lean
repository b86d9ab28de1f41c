import Mathlib.Data.Finset.Card
import Mathlib.Data.List.Chain
import Mathlib.Data.Nat.Find

/-!
# Three-colour depth-first search

A graph is given by the list of successors of each vertex. `DepthFirst.search` walks it from
a vertex in the order the successors are listed: a vertex is white until it is entered, gray
while it is on the path of the walk and black once all its successors have been looked at.
Every edge back to the path is handed to a check, and the walk stops at the first refusal.
The recursion is bounded by a number of calls; as many as the graph has vertices are enough.

Which edges back the walk meets is said without the walk. The first path to a vertex is the
path without a repetition that comes first in the order the successors are listed.

- `search_ok`, `search_error`: the walk succeeds if and only if its check passes for every
  edge from the end of a first path back to that path.
-/

namespace DepthFirst

universe u v

variable {V : Type u}

/-! ### First paths -/

/-- A path from `start` to `v` that meets no vertex twice. -/
structure Simple (next : V → List V) (start : V) (P : List V) (v : V) : Prop where
  chain : P.IsChain fun a b => b ∈ next a
  head : P.head? = some start
  last : P.getLast? = some v
  nodup : P.Nodup

/-- One path comes before another: where they part, it takes the successor that is listed
earlier. -/
inductive Earlier [DecidableEq V] (next : V → List V) : List V → List V → Prop
  | branch {x a b : V} {P Q : List V} (h : (next x).idxOf a < (next x).idxOf b) :
      Earlier next (x :: a :: P) (x :: b :: Q)
  | step {x : V} {P Q : List V} (h : Earlier next P Q) : Earlier next (x :: P) (x :: Q)

/-- The first path from `start` to `v`. -/
structure IsFirst [DecidableEq V] (next : V → List V) (start : V) (P : List V) (v : V) :
    Prop where
  simple : Simple next start P v
  earlier : ∀ Q, Simple next start Q v → Q ≠ P → Earlier next P Q

/-- An edge back: from the end of a first path to a vertex of that path. -/
def EdgeBack [DecidableEq V] (next : V → List V) (start : V) (P : List V) (w : V) : Prop :=
  ∃ u, IsFirst next start P u ∧ w ∈ next u ∧ w ∈ P

/-- An edge that crosses between first paths: it neither leads back to the first path to its
source nor prolongs it to the first path to its target. -/
def Crosses [DecidableEq V] (next : V → List V) (start : V) (u w : V) : Prop :=
  ∀ P, IsFirst next start P u → w ∉ P ∧ ¬ IsFirst next start (P ++ [w]) w

/-- Every beginning of a path is a first path. -/
def Trail [DecidableEq V] (next : V → List V) (start : V) (P : List V) : Prop :=
  ∀ A v B, P = A ++ v :: B → IsFirst next start (A ++ [v]) v

section Paths

variable {next : V → List V} {start : V}

variable {P Q : List V} {v : V}

/-- Two paths without a repetition from the same start to the same end part somewhere. -/
lemma exists_branch (hhead : P.head? = Q.head?) (hlast : P.getLast? = Q.getLast?) (hP : P.Nodup)
    (hQ : Q.Nodup) (hne : Q ≠ P) :
    ∃ A x a b B C, P = A ++ x :: a :: B ∧ Q = A ++ x :: b :: C ∧ a ≠ b := by
  induction P generalizing Q with
  | nil => exact absurd (List.head?_eq_none_iff.1 hhead.symm) hne
  | cons x P ih =>
    obtain ⟨Q, rfl⟩ : ∃ Q', Q = x :: Q' := by
      cases Q with
      | nil => simp at hhead
      | cons y Q => exact ⟨Q, by rw [Option.some.inj hhead]⟩
    have hxP := (List.nodup_cons.1 hP).1
    have hxQ := (List.nodup_cons.1 hQ).1
    cases P with
    | nil =>
      cases Q with
      | nil => exact absurd rfl hne
      | cons b Q =>
        -- the other path ends in its first vertex, which it then meets twice
        rw [List.getLast?_singleton, List.getLast?_cons_cons] at hlast
        exact absurd (List.mem_of_getLast? hlast.symm) hxQ
    | cons a P =>
      cases Q with
      | nil =>
        rw [List.getLast?_singleton, List.getLast?_cons_cons] at hlast
        exact absurd (List.mem_of_getLast? hlast) hxP
      | cons b Q =>
        by_cases hab : a = b
        · subst hab
          have hhead' : (a :: P).head? = (a :: Q).head? := rfl
          obtain ⟨A, y, c, d, B, C, hP', hQ', hcd⟩ := ih hhead' hlast
            (List.nodup_cons.1 hP).2 (List.nodup_cons.1 hQ).2 (fun h => hne (by rw [h]))
          exact ⟨x :: A, y, c, d, B, C, by rw [hP']; rfl, by rw [hQ']; rfl, hcd⟩
        · exact ⟨[], x, a, b, P, Q, rfl, rfl, hab⟩

/-- A path that begins in a set which is closed under successors stays in it. -/
lemma forall_mem_of_isChain {C : V → Prop} (hC : ∀ u, C u → ∀ w ∈ next u, C w)
    (hchain : P.IsChain fun a b => b ∈ next a) (hhead : ∀ u ∈ P.head?, C u) : ∀ u ∈ P, C u := by
  induction P with
  | nil => simp
  | cons a P ih =>
    have ha : C a := hhead a rfl
    have hrest := ih hchain.tail fun u hu => by
      cases P with
      | nil => simp at hu
      | cons b P =>
        obtain rfl : b = u := by simpa using hu
        exact hC a ha b (List.isChain_cons_cons.1 hchain).1
    intro u hu
    rcases List.mem_cons.1 hu with rfl | hu
    · exact ha
    · exact hrest u hu

lemma Simple.reachable_of_mem (h : Simple next start P v) {u : V} (hu : u ∈ P) :
    Relation.ReflTransGen (fun a b => b ∈ next a) start u := by
  refine forall_mem_of_isChain (fun _ hu _ hw => hu.tail hw) h.chain (fun a ha => ?_) u hu
  obtain rfl : start = a := Option.mem_unique h.head ha
  exact .refl

lemma Simple.reachable (h : Simple next start P v) :
    Relation.ReflTransGen (fun a b => b ∈ next a) start v :=
  h.reachable_of_mem (List.mem_of_getLast? h.last)

variable [DecidableEq V]

lemma Earlier.append (A : List V) (h : Earlier next P Q) : Earlier next (A ++ P) (A ++ Q) := by
  induction A with
  | nil => exact h
  | cons x A ih => exact .step ih

lemma Earlier.head_eq (h : Earlier next P Q) : P.head? = Q.head? := by
  cases h <;> rfl

lemma Earlier.asymm (h : Earlier next P Q) : ¬ Earlier next Q P := by
  induction h with
  | branch hlt =>
    intro hback
    cases hback with
    | branch hlt' => exact absurd hlt (Nat.lt_asymm hlt')
    | step hback =>
      rw [Option.some.inj hback.head_eq] at hlt
      exact Nat.lt_irrefl _ hlt
  | step h ih =>
    intro hback
    cases hback with
    | branch hlt' =>
      rw [Option.some.inj h.head_eq] at hlt'
      exact Nat.lt_irrefl _ hlt'
    | step hback => exact ih hback

/-- There is one first path to a vertex. -/
lemma IsFirst.unique (hP : IsFirst next start P v) (hQ : IsFirst next start Q v) : P = Q := by
  by_contra hne
  exact (hP.earlier Q hQ.simple (Ne.symm hne)).asymm (hQ.earlier P hP.simple hne)

lemma Trail.snoc (hP : Trail next start P) (hv : IsFirst next start (P ++ [v]) v) :
    Trail next start (P ++ [v]) := by
  intro A w B hsplit
  rcases List.eq_nil_or_concat B with rfl | ⟨B, b, rfl⟩
  · obtain ⟨rfl, hvw⟩ := List.append_inj' hsplit rfl
    rwa [← hvw, ← (List.cons.inj hvw).1]
  · have hsplit' : P ++ [v] = (A ++ w :: B) ++ [b] := by
      rw [hsplit]
      simp
    exact hP A w B (List.append_inj' hsplit' rfl).1

/-- A path all of whose beginnings are first paths is the first path to its end. -/
lemma Trail.isFirst (hP : Trail next start P) (hlast : P.getLast? = some v) :
    IsFirst next start P v := by
  obtain ⟨A, rfl⟩ := List.getLast?_eq_some_iff.1 hlast
  exact hP A v [] rfl

end Paths

/-! ### The search -/

/-- How far the walk has come with a vertex. -/
inductive Color
  | white
  /-- It is on the path of the walk. -/
  | gray
  /-- It has been left. -/
  | black
  deriving DecidableEq

variable {E : Type v}

/-- A look at the edge to `w` from the end of `path`. -/
def probe (enter : V → (V → Color) → Except E (V → Color))
    (check : List V → V → Except E Unit) (path : List V) (color : V → Color) (w : V) :
    Except E (V → Color) :=
  match color w with
  | .white => enter w color
  | .gray => (check path w).map fun _ => color
  | .black => .ok color

/-- The walk from a vertex that `path` leads to, with at most `n` vertices entered one inside
the other. It stops at the first edge back that the check refuses. -/
def search [DecidableEq V] (next : V → List V) (check : List V → V → Except E Unit) :
    ℕ → V → List V → (V → Color) → Except E (V → Color)
  | 0, _, _, color => .ok color
  | n + 1, v, path, color =>
    let path' := path ++ [v]
    ((next v).foldlM (probe (fun w => search next check n w path') check path')
      (Function.update color v .gray)).map fun color' => Function.update color' v .black

/-! ### What the walk leaves behind -/

/-- A vertex that has been entered keeps its colour. -/
def Kept (color color' : V → Color) : Prop := ∀ u, color u ≠ .white → color' u = color u

lemma Kept.refl (color : V → Color) : Kept color color := fun _ _ => rfl

lemma Kept.trans {c₁ c₂ c₃ : V → Color} (h : Kept c₁ c₂) (h' : Kept c₂ c₃) : Kept c₁ c₃ := by
  intro u hu
  have hu' := h u hu
  rw [h' u (by rw [hu']; exact hu), hu']

/-- At each step of the path the walk has been through with everything that the successors
listed earlier lead to without the path so far. -/
def Passed [DecidableEq V] (next : V → List V) (path : List V) (color : V → Color) : Prop :=
  ∀ A x a B, path = A ++ x :: a :: B → ∀ b ∈ next x, (next x).idxOf b < (next x).idxOf a →
    b ∉ A ++ [x] → ∀ u, Relation.ReflTransGen (fun y z => z ∈ next y ∧ z ∉ A ++ [x]) b u →
      color u = .black

/-- What holds during the walk, with `path` on its way and all vertices within `U`. -/
structure Inv [DecidableEq V] (next : V → List V) (start : V) (U : Finset V)
    (check : List V → V → Except E Unit) (path : List V) (color : V → Color) : Prop where
  gray_iff : ∀ u, color u = .gray ↔ u ∈ path
  closed : ∀ u, color u = .black → ∀ w ∈ next u, color w ≠ .white
  subset : ∀ u ∈ path, u ∈ U
  trail : Trail next start path
  passed : Passed next path color
  /-- A black vertex was entered by its first path, and its edges back have been checked. -/
  checked : ∀ u, color u = .black → ∃ P, Trail next start P ∧ P.getLast? = some u ∧
    ∀ w ∈ next u, w ∈ P → check P w = .ok ()

section Spec

variable [DecidableEq V] {next : V → List V} {start : V} {U : Finset V}
  {check : List V → V → Except E Unit} {path : List V} {color : V → Color} {v w : V}

variable {P done : List V} {u : V} {n : ℕ}

section

variable (hinv : Inv next start U check path color)
include hinv

lemma Inv.black_of_avoiding {b : V} (hb : color b = .black)
    (h : Relation.ReflTransGen (fun y z => z ∈ next y ∧ z ∉ path) b u) : color u = .black := by
  induction h with
  | refl => exact hb
  | @tail y z _ hedge ih =>
    cases hz : color z with
    | white => exact absurd hz (hinv.closed y ih z hedge.1)
    | gray => exact absurd ((hinv.gray_iff z).1 hz) hedge.2
    | black => rfl

lemma Inv.not_mem (hwhite : color v = .white) : v ∉ path := by
  intro hmem
  rw [(hinv.gray_iff v).2 hmem] at hwhite
  nomatch hwhite

lemma Inv.nodup : path.Nodup := by
  cases hlast : path.getLast? with
  | none => rw [List.getLast?_eq_none_iff.1 hlast]; exact List.nodup_nil
  | some u => exact (hinv.trail.isFirst hlast).simple.nodup

end

/-- The vertex that the walk is about to enter: it is the start, or a successor of the end of
the path whose siblings listed earlier have been looked at. -/
structure Due (next : V → List V) (start : V) (path : List V) (color : V → Color) (v : V) :
    Prop where
  white : color v = .white
  start : path = [] → v = start
  edge : ∀ u ∈ path.getLast?, v ∈ next u
  turn : ∀ u ∈ path.getLast?, ∀ b ∈ next u, (next u).idxOf b < (next u).idxOf v →
    color b ≠ .white

section

variable (hinv : Inv next start U check path color) (hdue : Due next start path color v)
include hinv hdue

lemma Inv.simple : Simple next start (path ++ [v]) v := by
  cases hlast : path.getLast? with
  | none =>
    obtain rfl := List.getLast?_eq_none_iff.1 hlast
    rw [hdue.start rfl]
    exact ⟨List.isChain_singleton _, rfl, rfl, List.nodup_singleton _⟩
  | some u =>
    have hfirst := (hinv.trail.isFirst hlast).simple
    refine ⟨?_, ?_, by simp, ?_⟩
    · rw [List.isChain_append]
      refine ⟨hfirst.chain, List.isChain_singleton v, fun a ha b hb => ?_⟩
      obtain rfl : v = b := by simpa using hb
      exact hdue.edge a ha
    · rw [List.head?_append, hfirst.head]
      rfl
    · refine List.nodup_append.2 ⟨hfirst.nodup, List.nodup_singleton v, ?_⟩
      intro a ha b hb hab
      rw [List.mem_singleton.1 hb] at hab
      exact hinv.not_mem hdue.white (hab ▸ ha)

/-- The walk has been through with what comes earlier than the path with one more vertex. -/
lemma Inv.passed_snoc : Passed next (path ++ [v]) color := by
  intro A x a B hsplit b hb hlt hnot u hu
  rcases List.eq_nil_or_concat B with rfl | ⟨B, c, rfl⟩
  · -- the last step of the path is the one to the new vertex
    have hsplit' : path ++ [v] = (A ++ [x]) ++ [a] := by
      rw [hsplit]
      simp
    obtain ⟨rfl, hva⟩ := List.append_inj' hsplit' rfl
    obtain rfl : v = a := by simpa using hva
    have hseen := hdue.turn x (by simp) b hb hlt
    refine hinv.black_of_avoiding ?_ hu
    cases hcolor : color b with
    | white => exact absurd hcolor hseen
    | gray => exact absurd ((hinv.gray_iff b).1 hcolor) hnot
    | black => rfl
  · have hsplit' : path ++ [v] = (A ++ x :: a :: B) ++ [c] := by
      rw [hsplit]
      simp
    exact hinv.passed A x a B (List.append_inj' hsplit' rfl).1 b hb hlt hnot u hu

/-- A vertex that the walk enters is entered by its first path. -/
lemma Inv.isFirst : IsFirst next start (path ++ [v]) v := by
  have hsimple := hinv.simple hdue
  refine ⟨hsimple, fun Q hQ hne => ?_⟩
  obtain ⟨A, x, a, b, B, C, hP, hQ', hab⟩ := exists_branch (hsimple.head.trans hQ.head.symm)
    (hsimple.last.trans hQ.last.symm) hsimple.nodup hQ.nodup hne
  have hchain := hsimple.chain
  have hchainQ := hQ.chain
  have hnodup := hQ.nodup
  have hlast := hQ.last
  rw [hP] at hchain
  rw [hQ'] at hchainQ hnodup hlast
  have ha : a ∈ next x := by
    have := (List.isChain_append.1 hchain).2.1
    exact (List.isChain_cons_cons.1 this).1
  have htail := (List.isChain_append.1 hchainQ).2.1
  have hb : b ∈ next x := (List.isChain_cons_cons.1 htail).1
  rw [hP, hQ']
  refine Earlier.append A (.branch ?_)
  by_contra hle
  -- otherwise the walk has come along the other path and is through with the vertex
  have hlt : (next x).idxOf b < (next x).idxOf a := by
    have hidx : (next x).idxOf a ≠ (next x).idxOf b :=
      fun h => hab ((List.idxOf_inj ha).1 h)
    omega
  have hsplitQ : A ++ x :: b :: C = (A ++ [x]) ++ (b :: C) := by simp
  rw [hsplitQ] at hnodup
  have hdisjoint := (List.nodup_append.1 hnodup).2.2
  have hnot : ∀ z ∈ b :: C, z ∉ A ++ [x] := fun z hz hmem => hdisjoint z hmem z hz rfl
  have hend : (b :: C).getLast? = some v := by
    rw [hsplitQ, List.getLast?_append_of_ne_nil _ (by simp)] at hlast
    exact hlast
  have hreach : Relation.ReflTransGen (fun y z => z ∈ next y ∧ z ∉ A ++ [x]) b v := by
    refine List.relationReflTransGen_of_exists_isChain_cons C ?_ (by
      exact Option.some.inj hend)
    have hC := (List.isChain_cons_cons.1 htail).2
    exact hC.imp_of_mem_imp (fun y z _ hz hyz => ⟨hyz, hnot z hz⟩)
  have hblack := hinv.passed_snoc hdue A x a B hP b hb hlt (hnot b List.mem_cons_self) v hreach
  rw [hdue.white] at hblack
  nomatch hblack

/-- Entering a vertex puts it on the path. -/
lemma Inv.enter (hU : v ∈ U) :
    Inv next start U check (path ++ [v]) (Function.update color v .gray) := by
  have hblack : ∀ u, Function.update color v .gray u = .black ↔ color u = .black := by
    intro u
    by_cases huv : u = v
    · simp [huv, hdue.white]
    · rw [Function.update_of_ne huv]
  refine ⟨fun u => ?_, fun u hu w hw => ?_,
    List.forall_mem_append.2 ⟨hinv.subset, List.forall_mem_singleton.2 hU⟩,
    hinv.trail.snoc (hinv.isFirst hdue),
    fun A x a B hsplit b hb hlt hnot u hu => ?_, fun u hu => hinv.checked u ((hblack u).1 hu)⟩
  · by_cases huv : u = v
    · simp [huv]
    · simp [hinv.gray_iff, huv]
  · by_cases hwv : w = v
    · simp [hwv]
    · rw [Function.update_of_ne hwv]
      exact hinv.closed u ((hblack u).1 hu) w hw
  · exact (hblack u).2 (hinv.passed_snoc hdue A x a B hsplit b hb hlt hnot u hu)

end

/-- The successors of the end of the path that the walk has looked at. -/
def Looked (check : List V → V → Except E Unit) (path : List V) (color : V → Color)
    (done : List V) : Prop :=
  ∀ w ∈ done, color w ≠ .white ∧ (w ∈ path → check path w = .ok ())

omit [DecidableEq V] in
lemma Looked.kept {color' : V → Color} (h : Looked check path color done)
    (hkept : Kept color color') : Looked check path color' done := by
  intro w hw
  refine ⟨?_, (h w hw).2⟩
  rw [hkept w (h w hw).1]
  exact (h w hw).1

omit [DecidableEq V] in
lemma Looked.snoc (h : Looked check path color done)
    (hw : color w ≠ .white ∧ (w ∈ path → check path w = .ok ())) :
    Looked check path color (done ++ [w]) :=
  List.forall_mem_append.2 ⟨h, List.forall_mem_singleton.2 hw⟩

lemma Inv.leave (hinv : Inv next start U check (path ++ [v]) color)
    (hlooked : Looked check (path ++ [v]) color (next v)) :
    Inv next start U check path (Function.update color v .black) := by
  have hnot : v ∉ path := by
    intro hmem
    exact (List.nodup_append.1 hinv.nodup).2.2 v hmem v (List.mem_singleton.2 rfl) rfl
  refine ⟨fun u => ?_, fun u hu w hw => ?_, fun u hu => hinv.subset u (List.mem_append_left _ hu),
    fun A u B hsplit => ?_, fun A x a B hsplit b hb hlt hmem u hu => ?_, fun u hu => ?_⟩
  · by_cases huv : u = v
    · simp [huv, hnot]
    · have hiff := hinv.gray_iff u
      simp only [List.mem_append, List.mem_singleton, huv, or_false] at hiff
      rw [Function.update_of_ne huv]
      exact hiff
  · by_cases hwv : w = v
    · simp [hwv]
    rw [Function.update_of_ne hwv]
    by_cases huv : u = v
    · exact (hlooked w (huv ▸ hw)).1
    · rw [Function.update_of_ne huv] at hu
      exact hinv.closed u hu w hw
  · exact hinv.trail A u (B ++ [v]) (by rw [hsplit]; simp)
  · have hblack := hinv.passed A x a (B ++ [v]) (by rw [hsplit]; simp) b hb hlt hmem u hu
    by_cases huv : u = v
    · simp [huv]
    · rw [Function.update_of_ne huv]
      exact hblack
  · by_cases huv : u = v
    · subst huv
      exact ⟨path ++ [u], hinv.trail, by simp, fun w hw hmem => (hlooked w hw).2 hmem⟩
    · rw [Function.update_of_ne huv] at hu
      exact hinv.checked u hu

/-- A path without a repetition has room for one more vertex. -/
lemma Inv.length_lt (hinv : Inv next start U check path color) (hwhite : color v = .white)
    (hU : v ∈ U) : path.length < U.card := by
  have hsub : path.toFinset ⊂ U := by
    refine Finset.ssubset_iff_subset_ne.2
      ⟨fun u hu => hinv.subset u (List.mem_toFinset.1 hu), fun heq => ?_⟩
    rw [← heq] at hU
    exact hinv.not_mem hwhite (List.mem_toFinset.1 hU)
  rw [← List.toFinset_card_of_nodup hinv.nodup]
  exact Finset.card_lt_card hsub

variable (next start U check path color) in
/-- What a part of the walk returns: the invariant with something more, or the refusal of an
edge back. -/
def Outcome (more : (V → Color) → Prop) : Except E (V → Color) → Prop
  | .ok color' => Inv next start U check path color' ∧ Kept color color' ∧ more color'
  | .error e => ∃ P w, EdgeBack next start P w ∧ check P w = .error e

lemma Outcome.bind {path' : List V} {color₀ : V → Color} {more more' : (V → Color) → Prop}
    {r : Except E (V → Color)} {f : (V → Color) → Except E (V → Color)}
    (h : Outcome next start U check path color more r)
    (hf : ∀ color', Inv next start U check path color' → Kept color color' → more color' →
      Outcome next start U check path' color₀ more' (f color')) :
    Outcome next start U check path' color₀ more' (r >>= f) := by
  cases r with
  | error e => exact h
  | ok color' => exact hf color' h.1 h.2.1 h.2.2

/-- A look at an edge, when entering a white vertex is as it should be. -/
lemma probe_spec {enter : V → (V → Color) → Except E (V → Color)} {rest : List V}
    (henter : Due next start path color w →
      Outcome next start U check path color (fun color' => color' w = .black) (enter w color))
    (hinv : Inv next start U check path color) (hlast : path.getLast? = some v)
    (hnext : next v = done ++ w :: rest) (hlooked : Looked check path color done) :
    Outcome next start U check path color
      (fun color' => Looked check path color' (done ++ [w])) (probe enter check path color w) := by
  have hw : w ∈ next v := by
    rw [hnext]
    simp
  unfold probe
  cases hcolor : color w with
  | white =>
    have hdue : Due next start path color w := by
      refine ⟨hcolor, fun hnil => ?_, fun u hu => ?_, fun u hu b hb hlt => ?_⟩
      · rw [hnil] at hlast
        nomatch hlast
      · obtain rfl : v = u := Option.mem_unique hlast hu
        exact hw
      · obtain rfl : v = u := Option.mem_unique hlast hu
        -- what is listed before has been looked at
        refine (hlooked b ?_).1
        by_contra hnot
        rw [hnext, List.idxOf_append_of_notMem hnot] at hlt
        have hle : (done ++ w :: rest).idxOf w ≤ done.length := by
          by_cases hmem : w ∈ done
          · rw [List.idxOf_append_of_mem hmem]
            exact List.idxOf_le_length
          · rw [List.idxOf_append_of_notMem hmem, List.idxOf_cons_self]
            exact Nat.le_refl _
        omega
    rw [← bind_pure (enter w color)]
    refine (henter hdue).bind fun color' hinv' hkept hblack => ⟨hinv', hkept, ?_⟩
    refine (hlooked.kept hkept).snoc ⟨by rw [hblack]; decide, fun hmem => ?_⟩
    exact absurd hmem (hinv.not_mem hcolor)
  | gray =>
    show Outcome next start U check path color _ ((check path w).map fun _ => color)
    cases hcheck : check path w with
    | error e =>
      exact ⟨path, w, ⟨v, hinv.trail.isFirst hlast, hw, (hinv.gray_iff w).1 hcolor⟩, hcheck⟩
    | ok u =>
      exact ⟨hinv, Kept.refl color, hlooked.snoc ⟨by rw [hcolor]; decide, fun _ => hcheck⟩⟩
  | black =>
    refine ⟨hinv, Kept.refl color, hlooked.snoc ⟨by rw [hcolor]; decide, fun hmem => ?_⟩⟩
    rw [(hinv.gray_iff w).2 hmem] at hcolor
    nomatch hcolor

lemma foldlM_spec {enter : V → (V → Color) → Except E (V → Color)} {rest : List V}
    (henter : ∀ w ∈ next v, ∀ color, Inv next start U check path color →
      Due next start path color w →
      Outcome next start U check path color (fun color' => color' w = .black) (enter w color))
    (hinv : Inv next start U check path color) (hlast : path.getLast? = some v)
    (hnext : next v = done ++ rest) (hlooked : Looked check path color done) :
    Outcome next start U check path color (fun color' => Looked check path color' (next v))
      (rest.foldlM (probe enter check path) color) := by
  induction rest generalizing done color with
  | nil =>
    rw [List.append_nil] at hnext
    exact ⟨hinv, Kept.refl color, by rw [hnext]; exact hlooked⟩
  | cons w rest ih =>
    have hw : w ∈ next v := by
      rw [hnext]
      simp
    rw [List.foldlM_cons]
    refine (probe_spec (henter w hw color hinv) hinv hlast hnext hlooked).bind
      fun color₁ hinv₁ hkept₁ hlooked₁ => ?_
    rw [← bind_pure (rest.foldlM _ color₁)]
    exact (ih hinv₁ (by rw [hnext]; simp) hlooked₁).bind fun _ hinv₂ hkept₂ hlooked₂ =>
      ⟨hinv₂, hkept₁.trans hkept₂, hlooked₂⟩

/-- The walk from a white vertex: it ends with the vertex black, the path as it was, and
every vertex that had been entered in its colour; or the check refuses an edge back. -/
theorem search_spec (hU : ∀ u ∈ U, ∀ w ∈ next u, w ∈ U) (n : ℕ)
    (hinv : Inv next start U check path color) (hdue : Due next start path color v) (hv : v ∈ U)
    (hfuel : U.card ≤ n + path.length) :
    Outcome next start U check path color (fun color' => color' v = .black)
      (search next check n v path color) := by
  induction n generalizing v path color with
  | zero =>
    have hlt := hinv.length_lt hdue.white hv
    omega
  | succ n ih =>
    have hentered := hinv.enter hdue hv
    have hnone : Looked check (path ++ [v]) (Function.update color v .gray) [] := by
      simp [Looked]
    have hscan := foldlM_spec
      (fun w hw color' hinv' hdue' => ih hinv' hdue' (hU v hv w hw)
        (by rw [List.length_append, List.length_singleton]; omega))
      hentered (by simp) (show next v = [] ++ next v from rfl) hnone
    rw [search]
    have hmap {α : Type u} {r : Except E α} {f : α → α} : r.map f = r >>= fun c => .ok (f c) := by
      cases r <;> rfl
    rw [hmap]
    refine hscan.bind fun color' hinv' hkept hlooked => ?_
    refine ⟨hinv'.leave hlooked, fun u hu => ?_, Function.update_self v _ _⟩
    have huv : u ≠ v := by
      rintro rfl
      exact hu hdue.white
    have hsame := hkept u (by rw [Function.update_of_ne huv]; exact hu)
    rw [Function.update_of_ne huv] at hsame
    show Function.update color' v .black u = color u
    rw [Function.update_of_ne huv, hsame]

/-! ### The walk from the start -/

/-- Nothing is on the path before the walk begins. -/
lemma inv_blank : Inv next start U check [] fun _ => .white :=
  ⟨by simp, by simp, by simp, by simp [Trail], by simp [Passed], by simp⟩

variable (check) in
/-- What the whole walk returns. -/
lemma search_outcome (hU : ∀ u ∈ U, ∀ w ∈ next u, w ∈ U) (hstart : start ∈ U) (hfuel : U.card ≤ n) :
    Outcome next start U check [] (fun _ => .white) (fun color' => color' start = .black)
      (search next check n start [] fun _ => .white) :=
  search_spec hU n inv_blank ⟨rfl, fun _ => rfl, by simp, by simp⟩ hstart hfuel

lemma Inv.black_of_reachable (hinv : Inv next start U check [] color)
    (hblack : color start = .black) (hreach : Relation.ReflTransGen (fun a b => b ∈ next a) start u)
    : color u = .black :=
  hinv.black_of_avoiding hblack (Relation.ReflTransGen.mono (fun _ _ h => ⟨h, by simp⟩) _ _ hreach)

section

variable (hU : ∀ u ∈ U, ∀ w ∈ next u, w ∈ U) (hstart : start ∈ U)
include hU hstart

/-- A walk fails only with a refused edge back. -/
theorem search_error (hfuel : U.card ≤ n) {e : E}
    (h : search next check n start [] (fun _ => .white) = .error e) :
    ∃ P w, EdgeBack next start P w ∧ check P w = .error e := by
  have hout := search_outcome check hU hstart hfuel
  rw [h] at hout
  exact hout

theorem search_ok (hfuel : U.card ≤ n) {color' : V → Color}
    (h : search next check n start [] (fun _ => .white) = .ok color')
    (hback : EdgeBack next start P w) : check P w = .ok () := by
  have hout := search_outcome check hU hstart hfuel
  rw [h] at hout
  obtain ⟨hinv, -, hblack⟩ := hout
  obtain ⟨u, hfirst, hw, hmem⟩ := hback
  have hu := hinv.black_of_reachable hblack hfirst.simple.reachable
  obtain ⟨P', htrail, hlast, hchecked⟩ := hinv.checked u hu
  obtain rfl := hfirst.unique (htrail.isFirst hlast)
  exact hchecked w hw hmem

lemma exists_trail (hreach : Relation.ReflTransGen (fun a b => b ∈ next a) start u) :
    ∃ P, Trail next start P ∧ IsFirst next start P u := by
  -- a walk whose check refuses nothing enters every vertex by its first path
  have hout := search_outcome (fun _ _ => (.ok () : Except Unit Unit)) hU hstart
    (Nat.le_refl U.card)
  cases hres : search next (fun _ _ => (.ok () : Except Unit Unit)) U.card start []
      fun _ => .white with
  | error e =>
    rw [hres] at hout
    obtain ⟨_, _, _, hcheck⟩ := hout
    nomatch hcheck
  | ok color =>
    rw [hres] at hout
    obtain ⟨hinv, -, hblack⟩ := hout
    obtain ⟨P, htrail, hlast, -⟩ := hinv.checked u (hinv.black_of_reachable hblack hreach)
    exact ⟨P, htrail, htrail.isFirst hlast⟩

/-! ### Cycles -/

/-- A path without a repetition is no longer than there are vertices. -/
lemma Simple.length_le (h : Simple next start P v) : P.length ≤ U.card := by
  have hsub := forall_mem_of_isChain hU h.chain fun u hu => by
    obtain rfl : start = u := Option.mem_unique h.head hu
    exact hstart
  rw [← List.toFinset_card_of_nodup h.nodup]
  exact Finset.card_le_card fun u hu => hsub u (List.mem_toFinset.1 hu)

/-- In a finite graph every beginning of a first path is a first path. -/
lemma IsFirst.trail (h : IsFirst next start P v) : Trail next start P := by
  obtain ⟨P', htrail, hfirst⟩ := exists_trail hU hstart h.simple.reachable
  rw [h.unique hfirst]
  exact htrail

/-- A first path that has come into a set, at a depth at which no first path is in it before,
goes on within the set until an edge leads back. -/
lemma exists_edge_back_of_isFirst {C : V → Prop}
    (hC : ∀ u, C u → ∃ w ∈ next u, C w ∧ ¬ Crosses next start u w) {A : List V}
    (hA : ∀ P u, C u → IsFirst next start P u → A.length < P.length) (n : ℕ) {Q : List V}
    (hQ : ∀ x ∈ Q, C x) (hfirst : IsFirst next start (A ++ Q) u) (hu : C u)
    (hn : U.card ≤ n + (A ++ Q).length) :
    ∃ Q w, EdgeBack next start (A ++ Q) w ∧ w ∈ Q ∧ ∀ x ∈ Q, C x := by
  have hstep {Q : List V} {u : V} (hQ : ∀ x ∈ Q, C x) (hfirst : IsFirst next start (A ++ Q) u)
      (hu : C u) : (∃ Q w, EdgeBack next start (A ++ Q) w ∧ w ∈ Q ∧ ∀ x ∈ Q, C x) ∨
        ∃ w, C w ∧ IsFirst next start (A ++ (Q ++ [w])) w := by
    obtain ⟨w, hw, hCw, hcross⟩ := hC u hu
    unfold Crosses at hcross
    push Not at hcross
    obtain ⟨P, hP, hback⟩ := hcross
    obtain rfl := hP.unique hfirst
    by_cases hmem : w ∈ A ++ Q
    · refine .inl ⟨Q, w, ⟨u, hfirst, hw, hmem⟩, ?_, hQ⟩
      rcases List.mem_append.1 hmem with hmemA | hmemQ
      · -- the first path to the vertex would be in the set before
        obtain ⟨A₁, A₂, rfl⟩ := List.append_of_mem hmemA
        have hw' := hfirst.trail hU hstart A₁ w (A₂ ++ Q) (by simp)
        have hlt := hA _ w hCw hw'
        simp at hlt
      · exact hmemQ
    · refine .inr ⟨w, hCw, ?_⟩
      rw [← List.append_assoc]
      exact hback hmem
  induction n generalizing Q u with
  | zero =>
    rcases hstep hQ hfirst hu with hdone | ⟨w, -, hlong⟩
    · exact hdone
    · have hle := hlong.simple.length_le hU hstart
      rw [← List.append_assoc, List.length_append, List.length_singleton] at hle
      omega
  | succ n ih =>
    rcases hstep hQ hfirst hu with hdone | ⟨w, hw, hlong⟩
    · exact hdone
    · refine ih (List.forall_mem_append.2 ⟨hQ, List.forall_mem_singleton.2 hw⟩) hlong hw ?_
      rw [← List.append_assoc, List.length_append, List.length_singleton]
      omega

/-- If every vertex of a set has a successor in the set by an edge that does not cross, and
the set can be reached, then some edge back closes a cycle within the set. -/
theorem exists_edge_back {C : V → Prop}
    (hC : ∀ u, C u → ∃ w ∈ next u, C w ∧ ¬ Crosses next start u w) {c : V} (hc : C c)
    (hreach : Relation.ReflTransGen (fun a b => b ∈ next a) start c) :
    ∃ A Q w, EdgeBack next start (A ++ Q) w ∧ w ∈ Q ∧ ∀ x ∈ Q, C x := by
  classical
  obtain ⟨P, -, hP⟩ := exists_trail hU hstart hreach
  have hdepth : ∃ n P u, C u ∧ IsFirst next start P u ∧ P.length = n :=
    ⟨P.length, P, c, hc, hP, rfl⟩
  obtain ⟨P₀, u₀, hu₀, hfirst, hlength⟩ := Nat.find_spec hdepth
  obtain ⟨A, rfl⟩ := List.getLast?_eq_some_iff.1 hfirst.simple.last
  have hA : ∀ P u, C u → IsFirst next start P u → A.length < P.length := by
    intro P u hu hP
    have hmin := Nat.find_min' hdepth ⟨P, u, hu, hP, rfl⟩
    rw [← hlength, List.length_append, List.length_singleton] at hmin
    omega
  obtain ⟨Q, w, h⟩ := exists_edge_back_of_isFirst hU hstart hC hA U.card (Q := [u₀])
    (by simpa using hu₀) hfirst hu₀ (by omega)
  exact ⟨A, Q, w, h⟩

end

end Spec

end DepthFirst
