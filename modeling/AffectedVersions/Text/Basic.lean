import AffectedVersions.Text.Hex

/-! Texts, which are made of characters and of halves of surrogate pairs. -/
namespace AffectedVersions

/-- A letter is a character or a code from U+D800 on that is only half of one. -/
inductive Letter where
  | char (c : Char)
  | half (n : Fin 0x800)
  deriving DecidableEq

namespace Letter

instance : Coe Char Letter := ⟨.char⟩

def code : Letter → Nat
  | char c => c.toNat
  | half n => 0xD800 + n

def ofCode (n : Nat) : Letter :=
  if n.isValidChar then .char (.ofNat n) else .half (.ofNat 0x800 (n - 0xD800))

def char? : Letter → Option Char
  | char c => some c
  | half _ => none

/-- Half of a pair is written by its number where only characters can be written. -/
def escape : Letter → List Char
  | char c => [c]
  | half n => '\\' :: 'u' :: Text.hexField 4 (0xD800 + n)

end Letter

structure Text where
  ofList ::
  toList : List Letter
  deriving DecidableEq

namespace Text

def ofString (s : String) : Text := .ofList (s.toList.map .char)

instance : Coe String Text := ⟨ofString⟩

instance : Append Text := ⟨fun s t => .ofList (s.toList ++ t.toList)⟩

def length (t : Text) : Nat := t.toList.length

def intercalate (mark : Text) (parts : List Text) : Text :=
  .ofList (mark.toList.intercalate (parts.map toList))

def ofCodes (codes : List Nat) : Text := .ofList (codes.map .ofCode)

/-- The characters of a text that consists of them only. -/
def whole? (t : Text) : Option String := (t.toList.mapM Letter.char?).map .ofList

def isWhole (t : Text) : Bool := t.whole?.isSome

def escaped (t : Text) : String := .ofList (t.toList.flatMap Letter.escape)

@[simp] theorem toList_ofList {letters : List Letter} : (ofList letters).toList = letters := rfl

@[simp] theorem ofList_toList {t : Text} : ofList t.toList = t := rfl

theorem toList_inj {s t : Text} : s.toList = t.toList ↔ s = t := by
  cases s
  cases t
  simp

@[simp] theorem toList_append {s t : Text} : (s ++ t).toList = s.toList ++ t.toList := rfl

theorem toList_eq_nil_iff {t : Text} : t.toList = [] ↔ t = "" := toList_inj (t := "")

theorem toList_ofString (s : String) : (ofString s).toList = s.toList.map .char := rfl

@[simp] theorem toList_intercalate (mark : Text) (parts : List Text) :
    (intercalate mark parts).toList = mark.toList.intercalate (parts.map toList) := rfl

theorem append_assoc (s t u : Text) : s ++ t ++ u = s ++ (t ++ u) :=
  congrArg ofList (List.append_assoc ..)

@[simp] theorem ofString_inj {s t : String} : ofString s = ofString t ↔ s = t := by
  rw [← toList_inj, toList_ofString, toList_ofString, List.map_inj_right fun _ _ => Letter.char.inj,
    String.toList_inj]

end Text

end AffectedVersions
