/-
  Texts as UTF-8 bytes.
-/
namespace Rowgate.Text

def utf8 (s : String) : List UInt8 :=
  s.toByteArray.data.toList

/-- The text of well-formed bytes. -/
def ofUtf8? (bytes : List UInt8) : Option String :=
  String.fromUTF8? ⟨bytes.toArray⟩

theorem toArray_utf8 (s : String) : ByteArray.mk (utf8 s).toArray = s.toByteArray := by
  simp [utf8]

@[simp]
theorem ofUtf8?_utf8 (s : String) : ofUtf8? (utf8 s) = some s := by
  rw [ofUtf8?, toArray_utf8, String.fromUTF8?, dif_pos s.isValidUTF8]
  rfl

end Rowgate.Text
