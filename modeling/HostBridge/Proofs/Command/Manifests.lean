import HostBridge.Proofs.Command.Reports
import HostBridge.Proofs.Symbol.BrokenStreams
import Mathlib.Data.List.Forall2

/-!
# Listing the symbols of manifests

The command prints the listing of all its manifests or nothing.  It stops at the first path that does
not open or does not load, and neither the paths behind that one nor what they hold make a difference.
-/

namespace HostBridge

/-!
## Where a load stops
-/

namespace Recorded

theorem after_after
    {result : Type} (first second : List Entry) (recorded : Recorded result) :
    (recorded.after second).after first = recorded.after (first ++ second) := by
  rw [after, after, after, List.append_assoc]

end Recorded

namespace LineReading

theorem getElem?_of_fault?
    {readings : List LineReading} {fault : ReadFault} (hfault : fault? readings = some fault) :
    readings[(names readings).length]? = some (.error fault) ∧
      forall earlier, earlier < (names readings).length ->
        exists name, readings[earlier]? = some (.ok name) ∧ name ≠ "" := by
  induction readings with
  | nil => cases hfault
  | cons reading rest ih =>
      cases reading with
      | error found =>
          cases hfault
          exact ⟨rfl, fun earlier hearlier => absurd hearlier (Nat.not_lt_zero earlier)⟩
      | ok name =>
          rw [fault?] at hfault
          by_cases hname : name = ""
          · rw [if_pos hname] at hfault
            cases hfault
          · rw [if_neg hname] at hfault
            rcases ih hfault with ⟨hline, hearlier⟩
            rw [names, if_neg hname, List.length_cons]
            refine ⟨hline, ?_⟩
            intro earlier hlt
            cases earlier with
            | zero => exact ⟨name, rfl, hname⟩
            | succ earlier => exact hearlier earlier (Nat.lt_of_succ_lt_succ hlt)

end LineReading

namespace Stream

/-- A load stops at the line at a position, from zero: it cannot be read, and no line before it is empty
or cannot be read. -/
structure StopsAt (stream : Stream) (position : Nat) (fault : ReadFault) : Prop where
  fails : stream.FailsAt position fault
  reads : forall earlier, earlier < position -> forall other, ¬stream.FailsAt earlier other
  filled : forall earlier, earlier < position -> ¬stream.BlankAt earlier

def IsReadable (stream : Stream) : Prop :=
  forall position fault, ¬stream.StopsAt position fault

theorem stopsAt_iff (stream : Stream) (position : Nat) (fault : ReadFault) :
    stream.StopsAt position fault <->
      LineReading.fault? stream.lines = some fault ∧
        (LineReading.names stream.lines).length = position := by
  constructor
  · intro hstops
    have hline := getElem?_lines_of_failsAt hstops.fails
    rcases LineReading.names_of_fault hline (fun earlier hlt =>
      exists_getElem?_lines_eq_name hline hlt (hstops.reads earlier hlt)
        (hstops.filled earlier hlt)) with ⟨_, hlength, hfault, _⟩
    exact ⟨hfault, hlength⟩
  · intro hends
    rcases hends with ⟨hfault, rfl⟩
    rcases LineReading.getElem?_of_fault? hfault with ⟨hline, hnames⟩
    refine ⟨failsAt_of_getElem?_lines hline, ?_, ?_⟩
    · intro earlier hlt other hfails
      rcases hnames earlier hlt with ⟨name, hname, _⟩
      rw [getElem?_lines_of_failsAt hfails] at hname
      cases hname
    · intro earlier hlt hblank
      rcases hnames earlier hlt with ⟨name, hname, hne⟩
      rw [getElem?_lines_of_blankAt hblank] at hname
      cases hname
      exact hne rfl

end Stream

namespace Library

theorem load_of_stopsAt
    {stream : Stream} {position : Nat} {fault : ReadFault}
    (hstops : stream.StopsAt position fault) (library : Library) :
    (library.load stream).result.1 = .error ⟨library.soname, position + 1, fault⟩ := by
  rcases (stream.stopsAt_iff position fault).mp hstops with ⟨hfault, rfl⟩
  rw [load_outcome, hfault]
  rfl

theorem exists_load_of_isReadable
    {stream : Stream} (hreadable : stream.IsReadable) (library : Library) :
    exists count, (library.load stream).result.1 = .ok count := by
  rw [load_outcome]
  cases hfault : LineReading.fault? stream.lines with
  | none => exact ⟨_, rfl⟩
  | some fault => exact absurd ((stream.stopsAt_iff _ fault).mpr ⟨hfault, rfl⟩) (hreadable _ fault)

end Library

namespace SymbolsCommand

/-!
## Paths in a row
-/

def Loads (files : Files) (path : String) (stream : Stream) : Prop :=
  files path = .ok stream ∧ stream.IsReadable

/-- A path does not open, or what it holds does not load, and what is then said about it.  Lines count
from one in each file. -/
inductive Stops (files : Files) (soname path : String) : String → Prop where
  | cannotOpen {reason : String} :
      files path = .error reason ->
      Stops files soname path ("cannot open " ++ path ++ ": " ++ reason)
  | cannotLoad {stream : Stream} {position : Nat} {fault : ReadFault} :
      files path = .ok stream ->
      stream.StopsAt position fault ->
      Stops files soname path
        ("failed to load " ++ path ++ ": " ++ "I/O error reading symbol manifest for " ++ soname ++
          " at line " ++ toString (position + 1) ++ ": " ++ fault.message ++ ": " ++ fault.message)

theorem message_cannotLoad (path soname : String) (line : Nat) (fault : ReadFault) :
    CommandFault.message (.cannotLoad path ⟨soname, line, fault⟩) =
      "failed to load " ++ path ++ ": " ++ "I/O error reading symbol manifest for " ++ soname ++
        " at line " ++ toString line ++ ": " ++ fault.message ++ ": " ++ fault.message := by
  unfold CommandFault.message LoadFailure.message
  simp only [← String.append_assoc]

theorem loads_or_stops (files : Files) (soname path : String) :
    (exists stream, Loads files path stream) ∨ exists words, Stops files soname path words := by
  cases hopen : files path with
  | error reason => exact Or.inr ⟨_, .cannotOpen hopen⟩
  | ok stream =>
      by_cases hreadable : stream.IsReadable
      · exact Or.inl ⟨stream, hopen, hreadable⟩
      · rcases Classical.not_forall.mp hreadable with ⟨position, hposition⟩
        rcases Classical.not_forall.mp hposition with ⟨fault, hfault⟩
        exact Or.inr ⟨_, .cannotLoad hopen (Classical.not_not.mp hfault)⟩

theorem Stops.not_loads
    {files : Files} {soname path words : String} (hstops : Stops files soname path words)
    (stream : Stream) : ¬Loads files path stream := by
  intro hloads
  rcases hloads with ⟨hfile, hreadable⟩
  cases hstops with
  | cannotOpen hopen =>
      rw [hfile] at hopen
      cases hopen
  | cannotLoad hopen hends =>
      rw [hfile] at hopen
      cases hopen
      exact hreadable _ _ hends

theorem exists_loadManifests_cons
    {stream : Stream} (hreadable : stream.IsReadable) (library : Library) (path : String) :
    exists entries, forall files rest, files path = .ok stream ->
      loadManifests files library (path :: rest) =
        (loadManifests files (library.load stream).result.2 rest).after entries := by
  rcases Library.exists_load_of_isReadable hreadable library with ⟨count, hcount⟩
  refine ⟨(library.load stream).journal ++ [.logged (.manifestRead path count)], ?_⟩
  intro files rest hopen
  rw [loadManifests, hopen, ← Recorded.after_after]
  rcases hload : library.load stream with ⟨⟨outcome, loaded⟩, journal⟩
  rw [hload] at hcount
  dsimp only at hcount ⊢
  rw [hload, hcount]
  rfl

theorem exists_loadManifests_of_stops
    {files : Files} {library : Library} {path words : String}
    (hstops : Stops files library.soname path words) :
    exists fault entries, fault.message = words ∧
      forall others rest, others path = files path ->
        loadManifests others library (path :: rest) = ⟨.error fault, entries⟩ := by
  cases hstops with
  | @cannotOpen reason hopen =>
      refine ⟨.cannotOpen path reason, [], rfl, ?_⟩
      intro others rest hsame
      rw [loadManifests, hsame, hopen]
      rfl
  | @cannotLoad stream position fault hopen hends =>
      refine ⟨.cannotLoad path ⟨library.soname, position + 1, fault⟩,
        (library.load stream).journal, message_cannotLoad _ _ _ _, ?_⟩
      intro others rest hsame
      have hfails := Library.load_of_stopsAt hends library
      rw [loadManifests, hsame, hopen]
      rcases hload : library.load stream with ⟨⟨outcome, loaded⟩, journal⟩
      rw [hload] at hfails
      dsimp only at hfails ⊢
      rw [hload, hfails]
      exact congrArg _ (List.append_nil journal)

/-!
## Lists of paths
-/

theorem loadManifests_of_loads
    {files : Files} {manifests : List String} {streams : List Stream}
    (hloads : List.Forall₂ (Loads files) manifests streams) (library : Library) :
    (loadManifests files library manifests).result = .ok (library.after streams) := by
  induction hloads generalizing library with
  | nil => rfl
  | @cons path stream manifests streams hpath _ ih =>
      rcases hpath with ⟨hopen, hreadable⟩
      rcases exists_loadManifests_cons hreadable library path with ⟨entries, hcons⟩
      rw [hcons files manifests hopen, Library.after_cons]
      exact ih (library.load stream).result.2

/-- Where a path stops the command behind paths that load, neither what is behind that path nor any
other file makes a difference. -/
theorem exists_loadManifests_append
    {files : Files} {front : List String} {path words : String} {streams : List Stream}
    (hfront : List.Forall₂ (Loads files) front streams) (library : Library)
    (hstops : Stops files library.soname path words) :
    exists fault entries, fault.message = words ∧
      forall others rest, (forall earlier, earlier ∈ front ++ [path] ->
          others earlier = files earlier) ->
        loadManifests others library (front ++ path :: rest) = ⟨.error fault, entries⟩ := by
  induction hfront generalizing library with
  | nil =>
      rcases exists_loadManifests_of_stops hstops with ⟨fault, entries, hwords, hends⟩
      refine ⟨fault, entries, hwords, ?_⟩
      intro others rest hsame
      exact hends others rest (hsame path List.mem_cons_self)
  | @cons first stream front streams hfirst _ ih =>
      rcases hfirst with ⟨hopen, hreadable⟩
      rcases exists_loadManifests_cons hreadable library first with ⟨opened, hcons⟩
      have hsoname : (library.load stream).result.2.soname = library.soname := rfl
      rcases ih (library.load stream).result.2 (hsoname ▸ hstops) with ⟨fault, entries, hwords, hends⟩
      refine ⟨fault, opened ++ entries, hwords, ?_⟩
      intro others rest hsame
      have hothers : others first = .ok stream := (hsame first List.mem_cons_self).trans hopen
      have hbehind : forall earlier, earlier ∈ front ++ [path] ->
          others earlier = files earlier := by
        intro earlier hearlier
        exact hsame earlier (List.mem_cons_of_mem first hearlier)
      rw [List.cons_append, hcons others _ hothers, hends others rest hbehind]
      rfl

theorem exists_loads_of_mem
    {files : Files} {manifests : List String} {streams : List Stream}
    (hloads : List.Forall₂ (Loads files) manifests streams) {path : String}
    (hpath : path ∈ manifests) : exists stream, Loads files path stream := by
  induction hloads with
  | nil => cases hpath
  | @cons first stream rest _ hfirst _ ih =>
      rcases List.mem_cons.mp hpath with rfl | hrest
      · exact ⟨stream, hfirst⟩
      · exact ih hrest

theorem exists_stops_of_not_loads
    {files : Files} (soname : String) {manifests : List String}
    (hsome : ¬exists streams, List.Forall₂ (Loads files) manifests streams) :
    exists front path back streams words,
      manifests = front ++ path :: back ∧
        List.Forall₂ (Loads files) front streams ∧ Stops files soname path words := by
  induction manifests with
  | nil => exact absurd ⟨[], List.Forall₂.nil⟩ hsome
  | cons first rest ih =>
      rcases loads_or_stops files soname first with ⟨stream, hfirst⟩ | ⟨words, hstops⟩
      · have hrest : ¬exists streams, List.Forall₂ (Loads files) rest streams := by
          intro hloads
          rcases hloads with ⟨streams, hloads⟩
          exact hsome ⟨stream :: streams, List.Forall₂.cons hfirst hloads⟩
        rcases ih hrest with ⟨front, path, back, streams, words, rfl, hfront, hstops⟩
        exact ⟨first :: front, path, back, stream :: streams, words, rfl,
          List.Forall₂.cons hfirst hfront, hstops⟩
      · exact ⟨[], first, rest, [], words, rfl, List.Forall₂.nil, hstops⟩

end SymbolsCommand

namespace Program

/-!
## Runs
-/

theorem run_symbols
    {arguments : List String} {soname : String} {manifests : List String}
    (hread : Command.read? arguments = some (.symbols soname manifests))
    (environment : Environment) :
    run environment arguments =
      (symbolsReport (SymbolsCommand.run environment.files soname manifests).result).after
        (notices environment (SymbolsCommand.run environment.files soname manifests).events) := by
  rw [run_of_read?_eq_some hread, report, Recorded.result_map, Recorded.events_map]

/-- A run that lists manifests prints the listing of all of them or nothing.  If every file opens and
loads, it succeeds and its output is the listing of a library that was loaded with all of them in
order.  If not, it fails without output, and the error is that of the first path in the list that does
not open or load; with other paths behind that one, or other files, the run is the same. -/
theorem symbols_all_or_nothing
    {arguments : List String} {soname : String} {manifests : List String}
    (hread : Command.read? arguments = some (.symbols soname manifests))
    (environment : Environment) :
    (forall streams, List.Forall₂ (SymbolsCommand.Loads environment.files) manifests streams ->
      (run environment arguments).code = 0 ∧
      (run environment arguments).output =
        ((Library.fresh (.scratch soname)).after streams).listing ∧
      forall notice, notice ∈ (run environment arguments).diagnostics -> notice.IsNotice) ∧
    ((¬exists streams, List.Forall₂ (SymbolsCommand.Loads environment.files) manifests streams) ->
      exists front path back words,
        manifests = front ++ path :: back ∧
        (forall earlier, earlier ∈ front ->
          exists stream, SymbolsCommand.Loads environment.files earlier stream) ∧
        SymbolsCommand.Stops environment.files soname path words ∧
        (run environment arguments).code = 1 ∧
        (run environment arguments).output = "" ∧
        (exists notices, (forall notice, notice ∈ notices -> notice.IsNotice) ∧
          (run environment arguments).diagnostics = notices ++ [.message ("error: " ++ words)]) ∧
        forall others later files,
          Command.read? others = some (.symbols soname (front ++ path :: later)) ->
          (forall earlier, earlier ∈ front ++ [path] ->
            files earlier = environment.files earlier) ->
          run { environment with files := files } others = run environment arguments) := by
  have hrun := run_symbols hread environment
  constructor
  · intro streams hloads
    have hresult : (SymbolsCommand.run environment.files soname manifests).result =
        .ok ((Library.fresh (.scratch soname)).after streams) :=
      SymbolsCommand.loadManifests_of_loads hloads _
    rw [hresult] at hrun
    rw [hrun]
    refine ⟨rfl, rfl, ?_⟩
    intro notice hnotice
    rw [Report.diagnostics_after, symbolsReport, Report.success, List.append_nil] at hnotice
    exact isNotice_of_mem_notices hnotice
  · intro hsome
    rcases SymbolsCommand.exists_stops_of_not_loads soname hsome with
      ⟨front, path, back, streams, words, rfl, hfront, hstops⟩
    rcases SymbolsCommand.exists_loadManifests_append hfront (Library.fresh (.scratch soname)) hstops
      with ⟨fault, entries, rfl, hends⟩
    have hstopped : SymbolsCommand.run environment.files soname (front ++ path :: back) =
        ⟨.error fault, entries⟩ := hends environment.files back (fun _ _ => rfl)
    rw [hstopped] at hrun
    refine ⟨front, path, back, fault.message, rfl, ?_, hstops, ?_, ?_, ?_, ?_⟩
    · intro earlier hearlier
      exact SymbolsCommand.exists_loads_of_mem hfront hearlier
    · rw [hrun, Report.code_after]
      rfl
    · rw [hrun, Report.output_after]
      rfl
    · rw [hrun, Report.diagnostics_after]
      exact ⟨_, fun notice hnotice => isNotice_of_mem_notices hnotice, rfl⟩
    · intro others later files hother hsame
      have hlater : SymbolsCommand.run files soname (front ++ path :: later) =
          ⟨.error fault, entries⟩ := hends files later hsame
      rw [hrun, run_symbols hother, hlater, notices, notices]

/-- The second of three files breaks at its second line, so the third, which is missing, is not
missed. -/
theorem symbols_all_or_nothing_second :
    let broken : Stream := ⟨[104, 10, 255, 10], .complete⟩
    let files : SymbolsCommand.Files := fun path =>
      if path = "a" then .ok (.ofText "f\ng\n")
      else if path = "b" then .ok broken
      else .error "No such file or directory (os error 2)"
    let environment : Environment := { platform := "linux x86_64", files := files }
    let report := run environment ["symbols", "--soname", "lib", "a", "b", "c"]
    report = .failed ("failed to load b: I/O error reading symbol manifest for lib at line 2: " ++
      "stream did not contain valid UTF-8: stream did not contain valid UTF-8") ∧
      run environment ["symbols", "a", "--soname", "lib", "b"] = report := by
  intro broken files environment report
  have hread : Command.read? ["symbols", "--soname", "lib", "a", "b", "c"] =
      some (.symbols "lib" ["a", "b", "c"]) := by decide +kernel
  have hreport : report =
      .failed ("failed to load b: I/O error reading symbol manifest for lib at line 2: " ++
        "stream did not contain valid UTF-8: stream did not contain valid UTF-8") := by
    decide +kernel
  refine ⟨hreport, ?_⟩
  rcases symbols_all_or_nothing hread environment with ⟨hloaded, hstopped⟩
  have hsome : ¬exists streams,
      List.Forall₂ (SymbolsCommand.Loads files) ["a", "b", "c"] streams := by
    intro hloads
    rcases hloads with ⟨streams, hloads⟩
    have hcode : report.code = 0 := (hloaded streams hloads).left
    rw [hreport] at hcode
    cases hcode
  have hfirst : SymbolsCommand.Loads files "a" (.ofText "f\ng\n") := by
    refine ⟨rfl, ?_⟩
    intro position fault hends
    cases ((Stream.stopsAt_iff _ position fault).mp hends).left
  have hsecond : SymbolsCommand.Stops files "lib" "b" _ :=
    .cannotLoad rfl ((broken.stopsAt_iff 1 .notText).mpr ⟨rfl, rfl⟩)
  rcases hstopped hsome with ⟨front, path, back, words, hsplit, hfront, hstops, _, _, _, hsame⟩
  rcases front with _ | ⟨first, _ | ⟨second, later⟩⟩
  · cases hsplit
    exact absurd hfirst (hstops.not_loads _)
  · cases hsplit
    exact hsame ["symbols", "a", "--soname", "lib", "b"] [] files (by decide +kernel)
      (fun _ _ => rfl)
  · have hb : "b" = second := (List.cons.inj (List.cons.inj hsplit).right).left
    rcases hfront "b" (hb ▸ List.mem_cons_of_mem first List.mem_cons_self) with ⟨stream, hloads⟩
    exact absurd hloads (hsecond.not_loads stream)

end Program
end HostBridge
