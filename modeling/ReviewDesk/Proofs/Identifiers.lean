-- Names of users and of pull requests as JSON. A name is written in one way and may be spelled in
-- many, and however it is spelled, the same name is read. So the text of a name is its own.
import ReviewDesk.Http.Rendering
import ReviewDesk.Proofs.Decoding

namespace ReviewDesk

namespace Json

variable {text s : String} {tree : Tree} {before after : List Char}

theorem string?_eq_some_iff : tree.string? = some s ↔ tree = .string s := by
  cases tree <;> simp [Tree.string?]

section Reading

variable {α : Type} {make : String → α}

/-- Whatever is made of a text is made of the one that the value is. -/
theorem readTextAs_eq_ok_iff {written : Padded} (sound : written.Sound)
    (isValue : ValueText written.core tree) (rest : Input) (a : α) (left : Input) :
    readTextAs make (written.text.map some ++ rest) = .ok (a, left) ↔
      (∃ s, tree = .string s ∧ make s = a) ∧ left = written.after.map some ++ rest := by
  unfold readTextAs
  rw [eq_ok_iff_toOption, toOption_map, toOption_readText sound isValue, Option.map_map,
    Option.map_eq_some_iff]
  simp only [Function.comp_apply, Prod.mk.injEq, string?_eq_some_iff, eq_comm (a := left)]
  constructor
  · rintro ⟨s, isString, made, same⟩
    exact ⟨⟨s, isString, made⟩, same⟩
  · rintro ⟨⟨s, isString, made⟩, same⟩
    exact ⟨s, isString, made, same⟩

theorem readWhole_readTextAs (spelled : Spells text tree) (a : α) :
    readWhole (readTextAs make) text = .ok a ↔ ∃ s, tree = .string s ∧ make s = a := by
  obtain ⟨sound, isValue⟩ := spelled
  exact readWhole_eq_ok_iff sound (readTextAs_eq_ok_iff sound isValue) a

end Reading

/-- A text as it is written, with blanks around it. -/
theorem spells_string (front : Blanks before) (back : Blanks after) (s : String) :
    Spells (String.ofList before ++ (Json.string s).text ++ String.ofList after) (.string s) := by
  have spelled := @Spells.intro ⟨before, stringText s, after⟩ _ ⟨front, back⟩
    (.string (stringText_spells s))
  rw [Padded.text, String.ofList_append, String.ofList_append] at spelled
  exact spelled

end Json

open Json

theorem UserId.readWhole_eq_ok_iff {text : String} {tree : Tree} (spelled : Spells text tree)
    (user : UserId) : readWhole UserId.read text = .ok user ↔ tree = .string user.value := by
  refine (readWhole_readTextAs spelled user).trans ⟨?_, fun same => ⟨_, same, rfl⟩⟩
  rintro ⟨s, same, rfl⟩
  exact same

theorem PullRequestId.readWhole_eq_ok_iff {text : String} {tree : Tree}
    (spelled : Spells text tree) (id : PullRequestId) :
    readWhole PullRequestId.read text = .ok id ↔ tree = .string id.value := by
  refine (readWhole_readTextAs spelled id).trans ⟨?_, fun same => ⟨_, same, rfl⟩⟩
  rintro ⟨s, same, rfl⟩
  exact same

/-- A name is read back from its text, whatever blanks stand around it, and no other name has this
text. -/
theorem names_are_read_back {before after : List Char} (front : Blanks before)
    (back : Blanks after) :
    (∀ user : UserId,
      readWhole UserId.read
        (String.ofList before ++ user.toJson.text ++ String.ofList after) = .ok user) ∧
    (∀ id : PullRequestId,
      readWhole PullRequestId.read
        (String.ofList before ++ id.toJson.text ++ String.ofList after) = .ok id) ∧
    (∀ user other : UserId, user.toJson.text = other.toJson.text → user = other) ∧
    ∀ id other : PullRequestId, id.toJson.text = other.toJson.text → id = other := by
  have user_read : ∀ user : UserId, readWhole UserId.read
      (String.ofList before ++ user.toJson.text ++ String.ofList after) = .ok user := fun user =>
    (UserId.readWhole_eq_ok_iff (spells_string front back user.value) user).2 rfl
  have id_read : ∀ id : PullRequestId, readWhole PullRequestId.read
      (String.ofList before ++ id.toJson.text ++ String.ofList after) = .ok id := fun id =>
    (PullRequestId.readWhole_eq_ok_iff (spells_string front back id.value) id).2 rfl
  refine ⟨user_read, id_read, fun user other same => ?_, fun id other same => ?_⟩
  · have read := user_read user
    rw [same, user_read other] at read
    exact (Except.ok.inj read).symm
  · have read := id_read id
    rw [same, id_read other] at read
    exact (Except.ok.inj read).symm

/-- A name with what has to be escaped, what may be, and a character beyond the first 65536. -/
theorem odd_name_is_read_back :
    (UserId.toJson ⟨"\x00\"\\/\n\x1f😀"⟩).text = "\"\\u0000\\\"\\\\/\\n\\u001f😀\"" ∧
    readWhole UserId.read "\t \"\\u0000\\\"\\\\/\\n\\u001f😀\"\r\n" = .ok ⟨"\x00\"\\/\n\x1f😀"⟩ := by
  have text : (UserId.toJson ⟨"\x00\"\\/\n\x1f😀"⟩).text = "\"\\u0000\\\"\\\\/\\n\\u001f😀\"" := by
    decide +kernel
  have read := (@names_are_read_back ['\t', ' '] ['\r', '\n'] (by decide) (by decide)).1
    ⟨"\x00\"\\/\n\x1f😀"⟩
  rw [text] at read
  exact ⟨text, read⟩

end ReviewDesk
