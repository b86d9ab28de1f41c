import Mathlib.Data.String.Basic
import NexusAgent.Go.Strings
import NexusAgent.Lib.Bytes
import NexusAgent.Lib.Marks
import NexusAgent.Lib.OrderBy

/-!
# Skill bundles and their digest

A skill bundle and the text that its digest is taken of (`internal/skills/types.go`, `digest.go`):
one line for each field, each declared tool and each file, and one or two for the script. The lines
are written one after another and the fields are texts of any kind, so that a field can hold what
looks like the lines that follow it.

- `bundleText_eq_iff`: two bundles have the same text if their bodies, the part up to the script,
  are the same, and they have the same script.
-/

namespace NexusAgent.Skills

/-! ### The model -/

/-- A file of a skill. -/
structure BundleFile where
  path : String
  content : Bytes

/-- A skill: its identity and texts, the tools it wants, its files, its script if it has one, and
the signature. -/
structure SkillBundle where
  skillID : String
  description : String := ""
  triggerHint : String := ""
  declaredToolIDs : List String := []
  files : List BundleFile := []
  signature : Bytes := []
  /-- Empty for a bundle with no script. -/
  scriptContent : Bytes := []

/-- `HasScript`. -/
def SkillBundle.hasScript (b : SkillBundle) : Bool := decide (0 < b.scriptContent.length)

/-- No two files of a bundle have the same path. -/
def SkillBundle.DistinctPaths (b : SkillBundle) : Prop := (b.files.map BundleFile.path).Nodup

instance (b : SkillBundle) : Decidable b.DistinctPaths := inferInstanceAs (Decidable (List.Nodup _))

/-- The hash, and the check of a signature over a message with a public key. -/
structure Crypto where
  sum256 : Bytes → Bytes
  verify : Bytes → Bytes → Bytes → Bool

/-- What the verb `%x` prints of some bytes. -/
def hex (bs : Bytes) : String :=
  String.ofList (bs.flatMap fun b => [Go.hexDigit (b.toNat / 16), Go.hexDigit (b.toNat % 16)])

/-- What `BundleDigest` hashes: the fields, the tools and the files in order, and the script. -/
def bundleText (k : Crypto) (b : SkillBundle) : String :=
  "skill_id=" ++ b.skillID ++ "\n" ++
  "description=" ++ b.description ++ "\n" ++
  "trigger_hint=" ++ b.triggerHint ++ "\n" ++
  String.join ((orderBy id b.declaredToolIDs).map fun id => "declared_tool_id=" ++ id ++ "\n") ++
  String.join ((orderBy BundleFile.path b.files).map fun f =>
    "file_path=" ++ f.path ++ "\n" ++
    "file_content_sha256=" ++ hex (k.sum256 f.content) ++ "\n") ++
  "script_present=" ++ toString b.hasScript ++ "\n" ++
  if b.hasScript then "script_sha256=" ++ hex (k.sum256 b.scriptContent) ++ "\n" else ""

/-- `BundleDigest`, which is what is signed. -/
def bundleDigest (k : Crypto) (b : SkillBundle) : Bytes := k.sum256 (textBytes (bundleText k b))

/-- The length of a public key, in bytes. -/
def publicKeySize : ℕ := 32

/-- The length of a signature, in bytes. -/
def signatureSize : ℕ := 64

/-- `VerifySignature`: a key or a signature of another length is refused first. -/
def verifySignature (k : Crypto) (b : SkillBundle) (pub : Bytes) : Bool :=
  if pub.length ≠ publicKeySize ∨ b.signature.length ≠ signatureSize then false
  else k.verify pub (bundleDigest k b) b.signature

/-! ### Hexadecimal digits -/

lemma hexDigit_inj {m n : ℕ} (hm : m < 16) (hn : n < 16) (h : Go.hexDigit m = Go.hexDigit n) :
    m = n := by
  have key : ∀ m < 16, ∀ n < 16, Go.hexDigit m = Go.hexDigit n → m = n := by decide
  exact key m hm n hn h

lemma newline_notMem_hex (bs : Bytes) : '\n' ∉ (hex bs).toList := by
  have key : ∀ n < 16, Go.hexDigit n ≠ '\n' := by decide
  simp only [hex, String.toList_ofList, List.mem_flatMap, not_exists, not_and]
  intro b _ hmem
  have hb := b.toNat_lt
  rcases List.mem_pair.1 hmem with h | h <;> exact key _ (by omega) h.symm

lemma hex_inj {bs cs : Bytes} (h : hex bs = hex cs) : bs = cs := by
  replace h := congrArg String.toList h
  simp only [hex, String.toList_ofList] at h
  induction bs generalizing cs with
  | nil =>
    cases cs with
    | nil => rfl
    | cons c cs => simp at h
  | cons b bs ih =>
    cases cs with
    | nil => simp at h
    | cons c cs =>
      simp only [List.flatMap_cons, List.cons_append, List.nil_append, List.cons.injEq] at h
      obtain ⟨hhigh, hlow, hrest⟩ := h
      have hb := b.toNat_lt
      have hc := c.toNat_lt
      have hdiv := hexDigit_inj (by omega) (by omega) hhigh
      have hmod := hexDigit_inj (by omega) (by omega) hlow
      have hbc : b = c := UInt8.toNat_inj.1 (by omega)
      rw [hbc, ih hrest]

/-! ### The text of a bundle, up to its script -/

/-- What stands in front of a description, a trigger hint, a declared tool, a path and a content:
the end of the line before and the name of the field. -/
def descriptionMark : List Char := '\n' :: "description=".toList

@[inherit_doc descriptionMark]
def hintMark : List Char := '\n' :: "trigger_hint=".toList

@[inherit_doc descriptionMark]
def toolMark : List Char := '\n' :: "declared_tool_id=".toList

@[inherit_doc descriptionMark]
def pathMark : List Char := '\n' :: "file_path=".toList

@[inherit_doc descriptionMark]
def contentMark : List Char := '\n' :: "file_content_sha256=".toList

lemma isMark_descriptionMark : IsMark '\n' descriptionMark :=
  ⟨_, rfl, by decide⟩

lemma isMark_hintMark : IsMark '\n' hintMark := ⟨_, rfl, by decide⟩

/-- The two lines of a file, each with the end of the line before. -/
def fileEntry (k : Crypto) (path : String) (content : Bytes) : List Char :=
  pathMark ++ (path.toList ++ (contentMark ++ (hex (k.sum256 content)).toList))

/-- The declared tools and the files, as they stand in the text. -/
def entries (k : Crypto) (b : SkillBundle) : List Char :=
  (orderBy id b.declaredToolIDs).flatMap (fun id => toolMark ++ id.toList) ++
    (orderBy BundleFile.path b.files).flatMap fun f => fileEntry k f.path f.content

/-- What stands between the name of the first field and the end of the line before the script. -/
def body (k : Crypto) (b : SkillBundle) : List Char :=
  b.skillID.toList ++ (descriptionMark ++ (b.description.toList ++
    (hintMark ++ (b.triggerHint.toList ++ entries k b))))

/-- The lines of the script, without the end of the last one. -/
def scriptLines (k : Crypto) (b : SkillBundle) : List Char :=
  if b.hasScript then
    "script_present=true".toList ++ '\n' :: ("script_sha256=".toList ++
      (hex (k.sum256 b.scriptContent)).toList)
  else "script_present=false".toList

lemma toList_newline : "\n".toList = ['\n'] := by decide

lemma toList_scriptLines (k : Crypto) (b : SkillBundle) :
    "script_present=".toList ++ ((toString b.hasScript).toList ++ ('\n' ::
      (if b.hasScript then "script_sha256=" ++ hex (k.sum256 b.scriptContent) ++ "\n"
        else "").toList)) = scriptLines k b ++ ['\n'] := by
  unfold scriptLines
  cases b.hasScript with
  | false =>
    rw [if_neg Bool.false_ne_true, if_neg Bool.false_ne_true]
    decide
  | true =>
    simp only [if_true, String.toList_append, toList_newline, List.append_assoc, List.cons_append]
    rfl

/-- The lines, put together. -/
lemma toList_bundleText (k : Crypto) (b : SkillBundle) :
    (bundleText k b).toList =
      "skill_id=".toList ++ (body k b ++ '\n' :: (scriptLines k b ++ ['\n'])) := by
  -- the line breaks move from the end of each entry to its front
  have htools := cons_flatMap_append '\n'
    (fun id : String => "declared_tool_id=".toList ++ id.toList) (orderBy id b.declaredToolIDs)
  have hfiles := cons_flatMap_append '\n' (fun f : BundleFile => "file_path=".toList ++
    (f.path.toList ++ '\n' :: ("file_content_sha256=".toList ++
      (hex (k.sum256 f.content)).toList))) (orderBy BundleFile.path b.files)
  simp only [List.append_assoc, List.cons_append] at htools hfiles
  rw [← toList_scriptLines]
  unfold bundleText body entries fileEntry descriptionMark hintMark toolMark pathMark contentMark
  simp only [String.toList_append, String.toList_join, List.flatMap_map, toList_newline,
    List.append_assoc, List.cons_append, List.nil_append, htools, hfiles]

/-! ### Reading the text back -/

lemma SkillBundle.hasScript_eq_false {b : SkillBundle} (h : b.hasScript = false) :
    b.scriptContent = [] := by
  simpa [SkillBundle.hasScript] using h

/-- The last line of a bundle with a script is not that of a bundle without. -/
lemma scriptLine_ne (h : List Char) :
    "script_present=false".toList ≠ "script_sha256=".toList ++ h := by
  intro heq
  have htake := congrArg (List.take 8) heq
  rw [List.take_append_of_le_length (by decide)] at htake
  exact absurd htake (by decide)

lemma newline_notMem_scriptDigest (bs : Bytes) :
    '\n' ∉ "script_sha256=".toList ++ (hex bs).toList := by
  rw [List.mem_append, not_or]
  exact ⟨by decide, newline_notMem_hex bs⟩

lemma body_scriptLines {k : Crypto} (hk : Function.Injective k.sum256) {b c : SkillBundle}
    (h : body k b ++ '\n' :: scriptLines k b = body k c ++ '\n' :: scriptLines k c) :
    body k b = body k c ∧ b.scriptContent = c.scriptContent := by
  have hplain : '\n' ∉ "script_present=false".toList := by decide
  have hsplit (x y z : List Char) :
      x ++ '\n' :: (y ++ '\n' :: z) = (x ++ '\n' :: y) ++ '\n' :: z := by
    rw [List.append_assoc, List.cons_append]
  unfold scriptLines at h
  cases hb : b.hasScript <;> cases hc : c.hasScript <;>
    simp only [hb, hc, if_true, Bool.false_eq_true, if_false] at h
  case false.false =>
    rw [b.hasScript_eq_false hb, c.hasScript_eq_false hc]
    exact ⟨(last_unique hplain hplain h).1, rfl⟩
  case false.true =>
    rw [hsplit] at h
    have hline := (last_unique hplain (newline_notMem_scriptDigest _) h).2
    exact absurd hline (scriptLine_ne _)
  case true.false =>
    rw [hsplit] at h
    have hline := (last_unique (newline_notMem_scriptDigest _) hplain h).2
    exact absurd hline.symm (scriptLine_ne _)
  case true.true =>
    rw [hsplit, hsplit] at h
    obtain ⟨hbody, hline⟩ := last_unique (newline_notMem_scriptDigest _)
      (newline_notMem_scriptDigest _) h
    have hhex := String.toList_inj.1 (List.append_cancel_left hline)
    exact ⟨List.append_cancel_right hbody, hk (hex_inj hhex)⟩

theorem bundleText_eq_iff {k : Crypto} (hk : Function.Injective k.sum256) {b c : SkillBundle} :
    bundleText k b = bundleText k c ↔ body k b = body k c ∧ b.scriptContent = c.scriptContent := by
  rw [← String.toList_inj, toList_bundleText, toList_bundleText]
  constructor
  · intro h
    have hlines := List.append_cancel_left h
    rw [← List.cons_append, ← List.cons_append, ← List.append_assoc, ← List.append_assoc] at hlines
    exact body_scriptLines hk (List.append_cancel_right hlines)
  · rintro ⟨hbody, hscript⟩
    have hlines : scriptLines k b = scriptLines k c := by
      unfold scriptLines SkillBundle.hasScript
      rw [hscript]
    rw [hbody, hlines]

end NexusAgent.Skills
