import HostBridge.Text.Octets
import Mathlib.Data.Nat.Find

/-!
# The longest text at the front

Octets that are no text still begin with texts, if only with the empty one.  The longest of these
fronts ends before the octets do, and no text at the front reaches beyond it.
-/

namespace HostBridge
namespace Octets

/-!
## Octets that are a text
-/

def IsText (octets : List UInt8) : Prop :=
  exists text, octets = ofText text

theorem toText?_eq_none_iff (octets : List UInt8) : toText? octets = none <-> ¬IsText octets := by
  rw [Option.eq_none_iff_forall_ne_some, IsText, not_exists]
  exact forall_congr' fun _ => not_congr toText?_eq_some_iff

theorem isSome_toText?_iff (octets : List UInt8) :
    (toText? octets).isSome = true <-> IsText octets := by
  rw [Option.isSome_iff_ne_none, ne_eq, toText?_eq_none_iff, not_not]

theorem isText_nil : IsText [] :=
  ⟨"", rfl⟩

theorem IsText.append
    {front back : List UInt8} (hfront : IsText front) (hback : IsText back) :
    IsText (front ++ back) := by
  rcases hfront with ⟨first, rfl⟩
  rcases hback with ⟨second, rfl⟩
  refine ⟨first ++ second, ?_⟩
  rw [ofText, ofText, ofText, String.toList_append, List.flatMap_append]

theorem IsText.flatMap
    {lines : List (List UInt8)} {mark : UInt8}
    (hmark : IsText [mark]) (hlines : forall line, line ∈ lines -> IsText line) :
    IsText (lines.flatMap fun line => line ++ [mark]) := by
  induction lines with
  | nil => exact isText_nil
  | cons line later ih =>
      have hline : IsText (line ++ [mark]) := (hlines line List.mem_cons_self).append hmark
      have hlater := ih fun other hother => hlines other (List.mem_cons_of_mem line hother)
      exact hline.append hlater

/-!
## The longest front
-/

def textLength (octets : List UInt8) : Nat :=
  Nat.findGreatest (fun length => (toText? (octets.take length)).isSome) octets.length

theorem isText_take_textLength (octets : List UInt8) :
    IsText (octets.take (textLength octets)) := by
  have hempty : (toText? (octets.take 0)).isSome = true := rfl
  have hlongest : (toText? (octets.take (textLength octets))).isSome = true :=
    Nat.findGreatest_spec (P := fun length => (toText? (octets.take length)).isSome)
      (Nat.zero_le octets.length) hempty
  exact (isSome_toText?_iff _).mp hlongest

theorem length_le_textLength
    {front octets : List UInt8} (hbegins : front <+: octets) (hfront : IsText front) :
    front.length ≤ textLength octets := by
  have htake : octets.take front.length = front := (List.prefix_iff_eq_take.mp hbegins).symm
  apply Nat.le_findGreatest hbegins.length_le
  rw [htake]
  exact (isSome_toText?_iff front).mpr hfront

theorem exists_eq_append_cons
    {octets : List UInt8} (hoctets : ¬IsText octets) :
    exists front next rest,
      octets = front ++ next :: rest ∧ IsText front ∧ front.length = textLength octets := by
  have hfront := isText_take_textLength octets
  have hle : textLength octets ≤ octets.length := Nat.findGreatest_le octets.length
  have hsplit := List.take_append_drop (textLength octets) octets
  have hlength : (octets.take (textLength octets)).length = textLength octets := by
    rw [List.length_take, Nat.min_eq_left hle]
  cases hback : octets.drop (textLength octets) with
  | nil =>
      rw [hback, List.append_nil] at hsplit
      rw [hsplit] at hfront
      exact absurd hfront hoctets
  | cons next rest =>
      rw [hback] at hsplit
      exact ⟨_, next, rest, hsplit.symm, hfront, hlength⟩

example : textLength [97, 0xe2, 0x82, 10, 98] = 1 := by decide +kernel

end Octets
end HostBridge
