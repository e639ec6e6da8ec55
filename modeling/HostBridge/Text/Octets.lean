/-!
# Octets of a text

A text is carried by its UTF-8 octets.  Reading accepts exactly what writing produces, so a run of
octets carries at most one text.
-/

namespace HostBridge
namespace Octets

def ofText (text : String) : List UInt8 :=
  text.toList.flatMap String.utf8EncodeChar

def toText? (octets : List UInt8) : Option String :=
  String.fromUTF8? octets.toByteArray

theorem toByteArray_ofText (text : String) :
    (ofText text).toByteArray = text.toByteArray := by
  obtain ⟨characters, rfl⟩ := String.exists_eq_ofList text
  simp [ofText, List.utf8Encode]

theorem toText?_eq_some_iff {octets : List UInt8} {text : String} :
    toText? octets = some text ↔ octets = ofText text := by
  constructor
  · intro read
    simp only [toText?, String.fromUTF8?] at read
    split at read
    · cases read
      apply List.toByteArray_inj.mp
      rw [toByteArray_ofText]
      rfl
    · cases read
  · intro written
    subst octets
    simp only [toText?, String.fromUTF8?, toByteArray_ofText, dif_pos text.isValidUTF8]
    rfl

theorem toText?_ofText (text : String) : toText? (ofText text) = some text :=
  toText?_eq_some_iff.mpr rfl

end Octets
end HostBridge
