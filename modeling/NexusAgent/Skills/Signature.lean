import NexusAgent.Skills.Bundle

/-!
# What a signature fixes

A bundle is admitted with a signature over its digest (`internal/skills/sign.go`). With a hash that
is injective and a signature that is good for one digest, another bundle is accepted with the same
signature exactly if it has the same text. The text does not say where a field ends: a line break in
a field is written like one between fields.

- `injectedHint_accepted`: a signature that accepts a bundle with another description and another
  trigger hint.
-/

namespace NexusAgent.Skills

/-! ### The property -/

/-- Two bundles with the same fields, tools, files and script. -/
structure SkillBundle.Same (b c : SkillBundle) : Prop where
  skillID : b.skillID = c.skillID
  description : b.description = c.description
  triggerHint : b.triggerHint = c.triggerHint
  tools : ∀ id, id ∈ b.declaredToolIDs ↔ id ∈ c.declaredToolIDs
  files : ∀ f, f ∈ b.files ↔ f ∈ c.files
  script : b.scriptContent = c.scriptContent

def DigestFixes (k : Crypto) (b : SkillBundle) : Prop :=
  ∀ c : SkillBundle, c.DistinctPaths → bundleDigest k b = bundleDigest k c → b.Same c

/-- The bundle carries a signature of the owner of a key over its digest: the check accepts it, and
for this digest only. -/
structure Signed (k : Crypto) (pub : Bytes) (b : SkillBundle) : Prop where
  key : pub.length = publicKeySize
  signature : b.signature.length = signatureSize
  verify : ∀ digest, k.verify pub digest b.signature = true ↔ digest = bundleDigest k b

def SignatureFixes (k : Crypto) (b : SkillBundle) : Prop :=
  ∀ pub, Signed k pub b → ∀ c : SkillBundle, c.DistinctPaths → c.signature = b.signature →
    verifySignature k c pub = true → b.Same c

variable {k : Crypto} {b c : SkillBundle}

lemma DigestFixes.signatureFixes (h : DigestFixes k b) : SignatureFixes k b := by
  intro pub hsigned c hc hsignature haccepts
  refine h c hc ?_
  unfold verifySignature at haccepts
  split at haccepts
  · nomatch haccepts
  · rw [hsignature] at haccepts
    exact ((hsigned.verify _).1 haccepts).symm

lemma Signed.accepts {pub : Bytes} (h : Signed k pub b)
    (hdigest : bundleDigest k b = bundleDigest k c) (hsignature : c.signature = b.signature) :
    verifySignature k c pub = true := by
  rw [verifySignature, hsignature, if_neg, (h.verify _).2 hdigest.symm]
  simp [h.key, h.signature]

lemma bundleDigest_eq_iff (hk : Function.Injective k.sum256) :
    bundleDigest k b = bundleDigest k c ↔
      body k b = body k c ∧ b.scriptContent = c.scriptContent := by
  rw [← bundleText_eq_iff hk]
  constructor
  · intro h
    exact textBytes_inj (hk h)
  · intro h
    rw [bundleDigest, bundleDigest, h]

/-! ### Bundles that can be read in one way only -/

/-- No tool, no file, and no field that holds what reads like the line of another field. -/
structure Unambiguous (k : Crypto) (b : SkillBundle) : Prop where
  noTools : b.declaredToolIDs = []
  noFiles : b.files = []
  skillID : ¬ descriptionMark <:+: b.skillID.toList
  description : ¬ descriptionMark <:+: b.description.toList
  description' : ¬ hintMark <:+: b.description.toList
  triggerHint : ¬ hintMark <:+: b.triggerHint.toList
  noToolLine : ¬ toolMark <:+: b.triggerHint.toList
  noFileLines : ∀ path content, ¬ fileEntry k path content <:+ b.triggerHint.toList

lemma entries_nil (htools : b.declaredToolIDs = []) (hfiles : b.files = []) : entries k b = [] := by
  simp [entries, htools, hfiles, orderBy]

lemma entries_eq_nil (h : Unambiguous k b) {hint : List Char}
    (heq : b.triggerHint.toList = hint ++ entries k c) : c.declaredToolIDs = [] ∧ c.files = [] := by
  have htools : orderBy id c.declaredToolIDs = [] := by
    cases hsorted : orderBy id c.declaredToolIDs with
    | nil => rfl
    | cons t ts =>
      refine absurd ⟨hint, ?_⟩ h.noToolLine
      rw [entries, hsorted, List.flatMap_cons] at heq
      exact ⟨t.toList ++ (ts.flatMap (fun id => toolMark ++ id.toList) ++
        (orderBy BundleFile.path c.files).flatMap fun f => fileEntry k f.path f.content),
        by rw [heq]; simp only [List.append_assoc]⟩
  have hfiles : orderBy BundleFile.path c.files = [] := by
    -- the last file's lines would end the hint
    rcases List.eq_nil_or_concat (orderBy BundleFile.path c.files) with hnil | ⟨fs, f, hsorted⟩
    · exact hnil
    · refine absurd ⟨hint ++ fs.flatMap fun f => fileEntry k f.path f.content, ?_⟩
        (h.noFileLines f.path f.content)
      rw [heq, entries, htools, hsorted]
      simp [List.concat_eq_append]
  have hperm := (orderBy_perm id c.declaredToolIDs)
  have hperm' := (orderBy_perm BundleFile.path c.files)
  rw [htools] at hperm
  rw [hfiles] at hperm'
  exact ⟨hperm.symm.eq_nil, hperm'.symm.eq_nil⟩

lemma Unambiguous.same (h : Unambiguous k b) (hbody : body k b = body k c)
    (hscript : b.scriptContent = c.scriptContent) : b.Same c := by
  unfold body at hbody
  rw [entries_nil h.noTools h.noFiles, List.append_nil] at hbody
  obtain ⟨hid, hdescription, hhint⟩ := fields_unique isMark_descriptionMark isMark_hintMark
    (by decide) (by decide) h.skillID h.description h.description' h.triggerHint hbody
  obtain ⟨htools, hfiles⟩ := entries_eq_nil h hhint
  rw [entries_nil htools hfiles, List.append_nil] at hhint
  exact {
    skillID := String.toList_inj.1 hid
    description := String.toList_inj.1 hdescription
    triggerHint := String.toList_inj.1 hhint
    tools := by simp [h.noTools, htools]
    files := by simp [h.noFiles, hfiles]
    script := hscript }

/-! ### Bundles that can be read in another way -/

section Readings

variable {k : Crypto} {b : SkillBundle} {x y z : List Char} {tools : List String}
  {files : List BundleFile}

/-- A bundle with other texts, tools and files, and the same script. -/
def SkillBundle.reread (b : SkillBundle) (x y z : List Char) (tools : List String)
    (files : List BundleFile) : SkillBundle :=
  { b with
    skillID := String.ofList x
    description := String.ofList y
    triggerHint := String.ofList z
    declaredToolIDs := tools
    files := files }

lemma body_reread : body k (b.reread x y z tools files) =
    x ++ (descriptionMark ++ (y ++ (hintMark ++ (z ++
      ((orderBy id tools).flatMap (fun id => toolMark ++ id.toList) ++
        (orderBy BundleFile.path files).flatMap fun f => fileEntry k f.path f.content))))) := by
  unfold body entries SkillBundle.reread
  simp only [String.toList_ofList]

lemma DigestFixes.texts (hk : Function.Injective k.sum256) (h : DigestFixes k b)
    (hbody : body k b = body k (b.reread x y z tools files))
    (hfiles : (files.map BundleFile.path).Nodup) :
    b.skillID.toList = x ∧ b.description.toList = y ∧ b.triggerHint.toList = z := by
  have hsame : b.Same (b.reread x y z tools files) :=
    h _ hfiles ((bundleDigest_eq_iff hk).2 ⟨hbody, rfl⟩)
  rw [hsame.skillID, hsame.description, hsame.triggerHint]
  simp only [SkillBundle.reread, String.toList_ofList, and_self]

/-- A field with a mark and what follows it cut off is another text. -/
lemma append_mark_ne {m u v : List Char} (hm : m ≠ []) : u ++ (m ++ v) ≠ u := by
  simp [hm]

/-- The first tool, read as the end of the trigger hint. -/
lemma DigestFixes.noTools (hk : Function.Injective k.sum256) (hb : b.DistinctPaths)
    (h : DigestFixes k b) : b.declaredToolIDs = [] := by
  rcases hsorted : orderBy id b.declaredToolIDs with _ | ⟨t, ts⟩
  · have hperm := orderBy_perm id b.declaredToolIDs
    rw [hsorted] at hperm
    exact hperm.symm.eq_nil
  have hpairwise := pairwise_orderBy id b.declaredToolIDs
  rw [hsorted] at hpairwise
  have hts : orderBy id ts = ts := orderBy_eq_self hpairwise.of_cons
  have hbody : body k b = body k (b.reread b.skillID.toList b.description.toList
      (b.triggerHint.toList ++ (toolMark ++ t.toList)) ts b.files) := by
    rw [body_reread, hts]
    unfold body entries
    rw [hsorted, List.flatMap_cons]
    simp only [List.append_assoc]
  exact absurd (h.texts hk hbody hb).2.2.symm (append_mark_ne (by decide))

/-- The first file, read as the end of the trigger hint. -/
lemma DigestFixes.noFiles (hk : Function.Injective k.sum256) (hb : b.DistinctPaths)
    (h : DigestFixes k b) : b.files = [] := by
  rcases hsorted : orderBy BundleFile.path b.files with _ | ⟨f, fs⟩
  · have hperm := orderBy_perm BundleFile.path b.files
    rw [hsorted] at hperm
    exact hperm.symm.eq_nil
  have hpairwise := pairwise_orderBy BundleFile.path b.files
  rw [hsorted] at hpairwise
  have hfs : orderBy BundleFile.path fs = fs := orderBy_eq_self hpairwise.of_cons
  have hdistinct : (fs.map BundleFile.path).Nodup := by
    have hperm := ((orderBy_perm BundleFile.path b.files).map BundleFile.path).nodup_iff.2 hb
    rw [hsorted, List.map_cons] at hperm
    exact hperm.of_cons
  have hbody : body k b = body k (b.reread b.skillID.toList b.description.toList
      (b.triggerHint.toList ++ fileEntry k f.path f.content) [] fs) := by
    rw [body_reread, hfs]
    unfold body entries
    rw [h.noTools hk hb, hsorted, List.flatMap_cons]
    simp only [List.append_assoc]
    rfl
  exact absurd (h.texts hk hbody hdistinct).2.2.symm (append_mark_ne (by decide))

lemma infix_iff {m w : List Char} : m <:+: w ↔ ∃ u v, w = u ++ (m ++ v) := by
  constructor
  all_goals
    rintro ⟨u, v, rfl⟩
    exact ⟨u, v, by rw [List.append_assoc]⟩

lemma DigestFixes.unambiguous (hk : Function.Injective k.sum256) (hb : b.DistinctPaths)
    (h : DigestFixes k b) : Unambiguous k b := by
  have hplain : body k b = b.skillID.toList ++ (descriptionMark ++ (b.description.toList ++
      (hintMark ++ (b.triggerHint.toList)))) := by
    unfold body
    rw [entries_nil (h.noTools hk hb) (h.noFiles hk hb), List.append_nil]
  -- how the body is read when there is neither tool nor file
  have hread (x y z : List Char)
      (heq : body k b = x ++ (descriptionMark ++ (y ++ (hintMark ++ z)))) :
      b.skillID.toList = x ∧ b.description.toList = y ∧ b.triggerHint.toList = z := by
    have hbody : body k b = body k (b.reread x y z [] []) := by
      rw [heq, body_reread]
      simp [orderBy]
    exact h.texts hk hbody List.nodup_nil
  refine ⟨h.noTools hk hb, h.noFiles hk hb, ?_, ?_, ?_, ?_, ?_, ?_⟩
  -- each field is cut at the mark, and one of the parts goes to its neighbour
  · rw [infix_iff]
    rintro ⟨u, v, hcut⟩
    have hid := (hread u (v ++ (descriptionMark ++ b.description.toList)) b.triggerHint.toList
      (by rw [hplain, hcut]; simp only [List.append_assoc])).1
    exact append_mark_ne (by decide) (hcut.symm.trans hid)
  · rw [infix_iff]
    rintro ⟨u, v, hcut⟩
    have hid := (hread (b.skillID.toList ++ (descriptionMark ++ u)) v b.triggerHint.toList
      (by rw [hplain, hcut]; simp only [List.append_assoc])).1
    exact append_mark_ne (by decide) hid.symm
  · rw [infix_iff]
    rintro ⟨u, v, hcut⟩
    have hdescription := (hread b.skillID.toList u (v ++ (hintMark ++ b.triggerHint.toList))
      (by rw [hplain, hcut]; simp only [List.append_assoc])).2.1
    exact append_mark_ne (by decide) (hcut.symm.trans hdescription)
  · rw [infix_iff]
    rintro ⟨u, v, hcut⟩
    have hdescription := (hread b.skillID.toList (b.description.toList ++ (hintMark ++ u)) v
      (by rw [hplain, hcut]; simp only [List.append_assoc])).2.1
    exact append_mark_ne (by decide) hdescription.symm
  -- the end of the hint, read as a tool and as a file
  · rw [infix_iff]
    rintro ⟨u, v, hcut⟩
    have hbody : body k b = body k (b.reread b.skillID.toList b.description.toList u
        [String.ofList v] []) := by
      rw [hplain, hcut, body_reread]
      simp [orderBy]
    have hhint := (h.texts hk hbody List.nodup_nil).2.2
    exact append_mark_ne (by decide) (hcut.symm.trans hhint)
  · rintro path content ⟨u, hcut⟩
    have hbody : body k b = body k (b.reread b.skillID.toList b.description.toList u []
        [⟨path, content⟩]) := by
      rw [hplain, ← hcut, body_reread]
      simp [orderBy]
    have hhint := (h.texts hk hbody (List.nodup_singleton path)).2.2
    exact append_mark_ne (by decide) (hcut.trans hhint)

end Readings

/-! ### The result -/

/-- A signature fixes the bundle that was signed exactly if the bundle is unambiguous. -/
theorem signature_fixes_iff {k : Crypto} (hk : Function.Injective k.sum256) {b : SkillBundle}
    (hb : b.DistinctPaths) : DigestFixes k b ∧ SignatureFixes k b ↔ Unambiguous k b := by
  constructor
  · rintro ⟨h, -⟩
    exact h.unambiguous hk hb
  · intro h
    have hdigest : DigestFixes k b := by
      intro c _ heq
      obtain ⟨hbody, hscript⟩ := (bundleDigest_eq_iff hk).1 heq
      exact h.same hbody hscript
    exact ⟨hdigest, hdigest.signatureFixes⟩

/-- A bundle of three texts without line breaks. -/
lemma Unambiguous.of_lines (htools : b.declaredToolIDs = []) (hfiles : b.files = [])
    (hid : '\n' ∉ b.skillID.toList) (hdescription : '\n' ∉ b.description.toList)
    (hhint : '\n' ∉ b.triggerHint.toList) : Unambiguous k b where
  noTools := htools
  noFiles := hfiles
  skillID h := hid (h.subset (by decide))
  description h := hdescription (h.subset (by decide))
  description' h := hdescription (h.subset (by decide))
  triggerHint h := hhint (h.subset (by decide))
  noToolLine h := hhint (h.subset (by decide))
  noFileLines _ _ h := hhint (h.subset (List.mem_append_left _ (by decide)))

/-- A hash that keeps its message, and a key whose owner signed one digest. -/
def signedOnce (signed : Bytes) : Crypto where
  sum256 := id
  verify _ digest _ := decide (digest = signed)

lemma signed_signedOnce (pub : Bytes) (b : SkillBundle) (hpub : pub.length = publicKeySize)
    (hsignature : b.signature.length = signatureSize) :
    Signed (signedOnce (bundleDigest (signedOnce []) b)) pub b where
  key := hpub
  signature := hsignature
  -- the digest depends on the hash only
  verify _ := decide_eq_true_iff

/-- A signed skill whose texts are one line each. -/
def plainSkill : SkillBundle where
  skillID := "s"
  description := "d"
  triggerHint := ""
  signature := List.replicate 64 0

theorem signature_fixes_single :
    ∃ k pub, Signed k pub plainSkill ∧ DigestFixes k plainSkill ∧ SignatureFixes k plainSkill :=
  ⟨_, List.replicate 32 0, signed_signedOnce _ plainSkill (by decide) (by decide),
    (signature_fixes_iff Function.injective_id (by decide)).2
      (Unambiguous.of_lines rfl rfl (by decide) (by decide) (by decide))⟩

/-! ### A description that holds a trigger hint -/

/-- A skill whose description has two lines, the second of which reads like a trigger hint. -/
def describedSkill (signature : Bytes) : SkillBundle where
  skillID := "s"
  description := "d\ntrigger_hint=x"
  triggerHint := "y"
  signature := signature

/-- The skill with the second line of its description moved to the trigger hint. -/
def hintedSkill (signature : Bytes) : SkillBundle where
  skillID := "s"
  description := "d"
  triggerHint := "x\ntrigger_hint=y"
  signature := signature

theorem injectedHint_accepted : ∃ (k : Crypto) (pub : Bytes) (b c : SkillBundle),
    Function.Injective k.sum256 ∧ b.DistinctPaths ∧ c.DistinctPaths ∧ Signed k pub b ∧
      c.signature = b.signature ∧ bundleDigest k b = bundleDigest k c ∧
      verifySignature k c pub = true ∧ ¬ b.Same c := by
  -- the owner of the key signs the digest of the first skill
  have hsigned := signed_signedOnce (List.replicate 32 0)
    (describedSkill (List.replicate 64 0)) (by decide) (by decide)
  have hdigest (k : Crypto) (signature : Bytes) :
      bundleDigest k (describedSkill signature) = bundleDigest k (hintedSkill signature) := rfl
  have hpaths (signature : Bytes) : (describedSkill signature).DistinctPaths := List.nodup_nil
  have hpaths' (signature : Bytes) : (hintedSkill signature).DistinctPaths := List.nodup_nil
  refine ⟨_, _, _, hintedSkill (List.replicate 64 0), Function.injective_id, hpaths _, hpaths' _,
    hsigned, rfl, hdigest _ _, hsigned.accepts (hdigest _ _) rfl, ?_⟩
  intro h
  exact absurd h.description (by decide)

end NexusAgent.Skills
