import HostBridge.Symbol.Listing
import HostBridge.Proofs.Number.Numeral
import HostBridge.Proofs.Text.Lines

/-!
# The text of a listing

What a listing says of a table can be read back from its text.  An index ends at the first blank
behind its digits and a name at its line feed, so names may hold anything but line feeds; the lost
indices are told apart by their digits.
-/

namespace HostBridge

/-!
## Numbers in a text
-/

/-- A number in digits ends where something else than a digit follows. -/
theorem toDigits_append_inj
    {one other : Nat} {rest others : List Char}
    (hrest : rest.takeWhile Char.isDigit = []) (hothers : others.takeWhile Char.isDigit = [])
    (htext : Nat.toDigits 10 one ++ rest = Nat.toDigits 10 other ++ others) :
    one = other ∧ rest = others := by
  have hfirst := congrArg (List.takeWhile Char.isDigit) htext
  have hbehind := congrArg (List.dropWhile Char.isDigit) htext
  rw [Numeral.takeWhile_digits (allDigits_toDigits one) hrest,
    Numeral.takeWhile_digits (allDigits_toDigits other) hothers] at hfirst
  rw [Numeral.dropWhile_digits (allDigits_toDigits one) hrest,
    Numeral.dropWhile_digits (allDigits_toDigits other) hothers] at hbehind
  have hvalue := congrArg (fun digits => Nat.ofDigitChars 10 digits 0) hfirst
  simp only [Nat.ofDigitChars_ten_toDigits] at hvalue
  exact ⟨hvalue, hbehind⟩

namespace Table

/-!
## Columns
-/

theorem toList_column (number : Nat) :
    (column number).toList =
      List.replicate (6 - (Nat.toDigits 10 number).length) ' ' ++ Nat.toDigits 10 number := by
  rw [column, String.toList_ofList]
  rfl

theorem dropWhile_column (number : Nat) (rest : List Char) :
    ((column number).toList ++ rest).dropWhile (· = ' ') = Nat.toDigits 10 number ++ rest := by
  have hblanks : forall character,
      character ∈ List.replicate (6 - (Nat.toDigits 10 number).length) ' ' ->
        decide (character = ' ') = true :=
    fun _ hmem => decide_eq_true (List.mem_replicate.mp hmem).right
  rw [toList_column, List.append_assoc, List.dropWhile_append_of_pos hblanks]
  have hdigits := allDigits_toDigits number
  cases hnumber : Nat.toDigits 10 number with
  | nil => exact absurd hnumber Nat.toDigits_ne_nil
  | cons first tail =>
      rw [hnumber] at hdigits
      have hfirst : first ≠ ' ' := ne_of_isDigit (hdigits first List.mem_cons_self) rfl
      exact List.dropWhile_cons_of_neg (by simpa using hfirst)

theorem column_append_inj
    {one other : Nat} {rest others : List Char}
    (htext : (column one).toList ++ ' ' :: rest = (column other).toList ++ ' ' :: others) :
    one = other ∧ rest = others := by
  have hdigits := congrArg (List.dropWhile (· = ' ')) htext
  rw [dropWhile_column, dropWhile_column] at hdigits
  rcases toDigits_append_inj rfl rfl hdigits with ⟨hnumber, hrest⟩
  exact ⟨hnumber, List.tail_eq_of_cons_eq hrest⟩

/-!
## Lines of bindings
-/

def bindingText (binding : String × Nat) : List Char :=
  (column binding.2).toList ++ ' ' :: ' ' :: binding.1.toList

theorem toList_bindingLine (binding : String × Nat) :
    (bindingLine binding).toList = bindingText binding ++ ['\n'] := by
  simp [bindingLine, bindingText]

def NamesFit (table : Table) : Prop :=
  forall name, name ∈ table.names -> '\n' ∉ name.toList

theorem lineFeed_not_mem_bindingText
    {binding : String × Nat} (hname : '\n' ∉ binding.1.toList) : '\n' ∉ bindingText binding := by
  intro hmem
  rw [bindingText, toList_column] at hmem
  rcases List.mem_append.mp hmem with hcolumn | hbehind
  · rcases List.mem_append.mp hcolumn with hblank | hdigit
    · exact absurd (List.mem_replicate.mp hblank).right (by decide)
    · exact absurd (allDigits_toDigits binding.2 '\n' hdigit) (by decide)
  · simp only [List.mem_cons] at hbehind
    rcases hbehind with hblank | hblank | hmem
    · exact absurd hblank (by decide)
    · exact absurd hblank (by decide)
    · exact hname hmem

theorem bindingText_injective : Function.Injective bindingText := by
  intro binding other htext
  rcases column_append_inj htext with ⟨hindex, hname⟩
  exact Prod.ext (String.toList_inj.mp (List.tail_eq_of_cons_eq hname)) hindex

/-!
## The line of lost indices
-/

def laterNumbers (numbers : List Nat) : List Char :=
  numbers.flatMap fun number => ',' :: ' ' :: Nat.toDigits 10 number

theorem takeWhile_laterNumbers (numbers : List Nat) :
    (laterNumbers numbers).takeWhile Char.isDigit = [] := by
  cases numbers <;> rfl

theorem laterNumbers_injective {numbers others : List Nat}
    (htext : laterNumbers numbers = laterNumbers others) : numbers = others := by
  induction numbers generalizing others with
  | nil =>
      cases others with
      | nil => rfl
      | cons other later => cases htext
  | cons number rest ih =>
      cases others with
      | nil => cases htext
      | cons other later =>
          have hdigits : Nat.toDigits 10 number ++ laterNumbers rest =
              Nat.toDigits 10 other ++ laterNumbers later :=
            List.tail_eq_of_cons_eq (List.tail_eq_of_cons_eq htext)
          rcases toDigits_append_inj (takeWhile_laterNumbers rest) (takeWhile_laterNumbers later)
            hdigits with ⟨hnumber, hlater⟩
          rw [hnumber, ih hlater]

theorem toList_intercalate_cons (number : Nat) (numbers : List Nat) :
    (", ".intercalate ((number :: numbers).map toString)).toList =
      Nat.toDigits 10 number ++ laterNumbers numbers := by
  induction numbers generalizing number with
  | nil =>
      show (Nat.repr number).toList = _
      rw [Nat.toList_repr, laterNumbers, List.flatMap_nil, List.append_nil]
  | cons next rest ih =>
      have hrest := ih next
      rw [List.map_cons] at hrest
      rw [List.map_cons, List.map_cons, String.intercalate_cons_cons, String.toList_append, hrest,
        String.toList_append]
      show (Nat.repr number).toList ++ _ ++ _ = _
      rw [Nat.toList_repr, List.append_assoc]
      rfl

/-- The line of lost indices, without its line feed; no line where none is lost. -/
def lostTexts : List Nat → List (List Char)
  | [] => []
  | first :: later =>
      ["unreachable: ".toList ++ (Nat.toDigits 10 first ++ laterNumbers later)]

theorem toList_unreachableLine (table : Table) :
    table.unreachableLine.toList =
      (lostTexts table.unreachable).flatMap fun line => line ++ ['\n'] := by
  rw [unreachableLine]
  cases table.unreachable with
  | nil => rfl
  | cons first later =>
      rw [String.toList_append, String.toList_append, toList_intercalate_cons, lostTexts,
        List.flatMap_singleton]
      rfl

theorem lostTexts_ne_nil_iff (lost : List Nat) :
    lostTexts lost ≠ [] <-> exists index, index ∈ lost := by
  cases lost with
  | nil => simp [lostTexts]
  | cons first later =>
      constructor
      · intro _
        exact ⟨first, List.mem_cons_self⟩
      · intro _
        exact List.cons_ne_nil _ _

theorem lostTexts_injective {lost others : List Nat} (htexts : lostTexts lost = lostTexts others) :
    lost = others := by
  cases lost with
  | nil =>
      cases others with
      | nil => rfl
      | cons other later => cases htexts
  | cons first rest =>
      cases others with
      | nil => cases htexts
      | cons other later =>
          have hnumbers := List.append_cancel_left (List.cons.inj htexts).left
          rcases toDigits_append_inj (takeWhile_laterNumbers rest) (takeWhile_laterNumbers later)
            hnumbers with ⟨hfirst, hrest⟩
          rw [hfirst, laterNumbers_injective hrest]

theorem lineFeed_not_mem_lostTexts
    {lost : List Nat} {line : List Char} (hline : line ∈ lostTexts lost) : '\n' ∉ line := by
  cases lost with
  | nil => cases hline
  | cons first later =>
      rw [List.mem_singleton.mp hline]
      intro hmem
      rcases List.mem_append.mp hmem with hword | hnumbers
      · revert hword
        decide
      · rcases List.mem_append.mp hnumbers with hdigit | hlater
        · exact absurd (allDigits_toDigits first '\n' hdigit) (by decide)
        · rcases List.mem_flatMap.mp hlater with ⟨number, _, hnumber⟩
          simp only [List.mem_cons] at hnumber
          rcases hnumber with hcomma | hblank | hdigit
          · exact absurd hcomma (by decide)
          · exact absurd hblank (by decide)
          · exact absurd (allDigits_toDigits number '\n' hdigit) (by decide)

/-!
## The whole text
-/

def heading (soname : String) (table : Table) : String :=
  soname ++ ": " ++ toString table.size ++ " symbol(s)\n"

def body (table : Table) : String :=
  String.join (table.byIndex.map bindingLine) ++ table.unreachableLine

theorem listing_eq (soname : String) (table : Table) :
    table.listing soname = table.heading soname ++ table.body := by
  rw [listing, heading, body, String.append_assoc]

theorem toList_body (table : Table) :
    table.body.toList =
      table.byIndex.flatMap (fun binding => bindingText binding ++ ['\n']) ++
        (lostTexts table.unreachable).flatMap fun line => line ++ ['\n'] := by
  rw [body, String.toList_append, String.toList_join, List.flatMap_map, toList_unreachableLine]
  simp only [toList_bindingLine]

theorem NamesFit.of_mem_byIndex
    {table : Table} (hfit : table.NamesFit) {binding : String × Nat}
    (hbinding : binding ∈ table.byIndex) : '\n' ∉ binding.1.toList := by
  apply hfit
  exact List.mem_map_of_mem (List.mem_mergeSort.mp hbinding)

theorem byMark_body {table : Table} (hfit : table.NamesFit) :
    Cut.byMark '\n' table.body.toList =
      ⟨table.byIndex.map bindingText ++ lostTexts table.unreachable, []⟩ := by
  have hlines : forall line, line ∈ table.byIndex.map bindingText ++ lostTexts table.unreachable ->
      '\n' ∉ line := by
    intro line hline
    rcases List.mem_append.mp hline with hbinding | hlost
    · rcases List.mem_map.mp hbinding with ⟨binding, hmem, rfl⟩
      exact lineFeed_not_mem_bindingText (hfit.of_mem_byIndex hmem)
    · exact lineFeed_not_mem_lostTexts hlost
  have hcut : Cut.byMark '\n' (Cut.join '\n' ⟨_, []⟩) = ⟨_, []⟩ :=
    Cut.byMark_join hlines List.not_mem_nil
  rw [Cut.join, List.append_nil, List.flatMap_append, List.flatMap_map] at hcut
  rw [toList_body]
  exact hcut

theorem size_eq_length_byIndex (table : Table) : table.size = table.byIndex.length :=
  (List.length_mergeSort table.bindings).symm

theorem heading_append_inj
    {soname : String} {first second : Table} {below beneath : String}
    (htext : first.heading soname ++ below = second.heading soname ++ beneath) :
    first.size = second.size ∧ below = beneath := by
  have hchars := congrArg String.toList htext
  simp only [heading, String.toList_append, List.append_assoc] at hchars
  have hnumbers := List.append_cancel_left (List.append_cancel_left hchars)
  change (Nat.repr first.size).toList ++ _ = (Nat.repr second.size).toList ++ _ at hnumbers
  rw [Nat.toList_repr, Nat.toList_repr] at hnumbers
  rcases toDigits_append_inj rfl rfl hnumbers with ⟨hsize, hbehind⟩
  exact ⟨hsize, String.toList_inj.mp (List.append_cancel_left hbehind)⟩

theorem listing_eq_listing_iff
    {first second : Table} (hfirst : first.NamesFit) (hsecond : second.NamesFit) (soname : String) :
    first.listing soname = second.listing soname <->
      first.byIndex = second.byIndex ∧ first.unreachable = second.unreachable := by
  constructor
  · intro htext
    rw [listing_eq, listing_eq] at htext
    rcases heading_append_inj htext with ⟨hsize, hbody⟩
    have hlines := congrArg (fun text : String => (Cut.byMark '\n' text.toList).ended) hbody
    simp only [byMark_body hfirst, byMark_body hsecond] at hlines
    have hcount : (first.byIndex.map bindingText).length =
        (second.byIndex.map bindingText).length := by
      rw [List.length_map, List.length_map, ← size_eq_length_byIndex, ← size_eq_length_byIndex,
        hsize]
    rcases List.append_inj hlines hcount with ⟨hrows, hlost⟩
    exact ⟨(List.map_inj_right bindingText_injective).mp hrows, lostTexts_injective hlost⟩
  · rintro ⟨hrows, hlost⟩
    rw [listing, listing, size_eq_length_byIndex, size_eq_length_byIndex, hrows, unreachableLine,
      unreachableLine, hlost]

end Table
end HostBridge
