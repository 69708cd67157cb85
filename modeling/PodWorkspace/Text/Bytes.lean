/-! Texts as bytes: the UTF-8 form of a text and the text that bytes stand for. -/

namespace PodWorkspace.Text

abbrev Bytes := List UInt8

def utf8 (s : String) : Bytes :=
  s.toUTF8.data.toList

/-- The text whose UTF-8 form `bytes` is, if there is one. -/
def ofUtf8? (bytes : Bytes) : Option String :=
  String.fromUTF8? ⟨bytes.toArray⟩

@[simp] theorem ofUtf8?_utf8 (s : String) : ofUtf8? (utf8 s) = some s := by
  have h : (⟨(utf8 s).toArray⟩ : ByteArray) = s.toByteArray := by
    simp [utf8]
  unfold ofUtf8? String.fromUTF8?
  rw [h, dif_pos s.isValidUTF8]
  rfl

end PodWorkspace.Text
