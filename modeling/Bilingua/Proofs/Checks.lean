import Bilingua.Command.Basic
import Bilingua.Proofs.JsonText
import Bilingua.Proofs.StoreHistory
import Bilingua.Proofs.Utf8

/-!
# Checks of files

A check looks at the files that it is given one after the other, a path that is given twice twice.
The lines of the findings and the entries of the JSON report follow the paths as they are given; the
counts and the exit code come from a store, which has each path once, by what it looks like. Paths
that are texts all look different. Of paths that look alike the store keeps the last one, and the
errors of the others count for nothing.

A check stops at the first file that cannot be read. By then it has printed what it found before, and
nothing at all in JSON. It prints nothing in JSON either if a path is no text.
-/

namespace Bilingua.Command

def Readable (host : Host) (path : Path) : Prop := ∃ text, host.read path = .ok text

def findingsAt (s : Settings) (host : Host) (path : Path) : List Finding :=
  match host.read path with
  | .ok text => s.findings text
  | .error _ => []

def linesOf (s : Settings) (host : Host) (paths : List Path) : Text :=
  paths.flatMap fun path =>
    (findingsAt s host path).flatMap fun f => Rendering.findingLine path.display f ++ ['\n']

/-- The number of findings of some sort, in all files at the paths, each file once. -/
def total (s : Settings) (host : Host) (p : Finding → Bool) (paths : List Path) : Nat :=
  (paths.dedup.map fun path => (findingsAt s host path).countP p).sum

def exitCode (s : Settings) (host : Host) (paths : List Path) : Nat :=
  if ∃ path ∈ paths, ∃ f ∈ findingsAt s host path, f.severity = .error then 1 else 0

/-- No two of the paths look alike. -/
def ShownApart (paths : List Path) : Prop :=
  ∀ path ∈ paths, ∀ path' ∈ paths, path.display = path'.display → path = path'

def reported (s : Settings) (host : Host) (paths : List Path) : List (Text × List Finding) :=
  paths.map fun path => (path.display, findingsAt s host path)

theorem shownApart_of_text {paths : List Path} (h : ∀ path ∈ paths, path.text?.isSome) :
    ShownApart paths :=
  fun path hpath path' hpath' => Path.display_inj (h path hpath) (h path' hpath')

/-! ## Files one after the other -/

section

variable {host : Host} {path : Path} {files before : List Path} {e : ReadError}

/-- Files that can be read are checked in turn, whatever comes after them. -/
theorem checkedFiles_append (s : Settings) (h : ∀ path ∈ before, Readable host path)
    (later : List Path) :
    checkedFiles s host.read (before ++ later) =
      (before.map (fun path => (path, findingsAt s host path)) ++
          (checkedFiles s host.read later).1,
        (checkedFiles s host.read later).2) := by
  induction before with
  | nil => rfl
  | cons path before ih =>
    obtain ⟨text, htext⟩ := h path List.mem_cons_self
    have hlater := ih fun q hq => h q (List.mem_cons_of_mem path hq)
    simp only [List.cons_append, checkedFiles, htext, hlater, List.map_cons, findingsAt]

theorem checkedFiles_of_readable (s : Settings) (h : ∀ path ∈ files, Readable host path) :
    checkedFiles s host.read files =
      (files.map (fun path => (path, findingsAt s host path)), none) := by
  have hall := checkedFiles_append s h []
  rwa [List.append_nil, checkedFiles, List.append_nil] at hall

theorem checkedFiles_of_unreadable (s : Settings) (h : ∀ path ∈ before, Readable host path)
    (he : host.read path = .error e) (later : List Path) :
    checkedFiles s host.read (before ++ path :: later) =
      (before.map (fun path => (path, findingsAt s host path)), some (.fileUnreadable path e)) := by
  have hstop : checkedFiles s host.read (path :: later) = ([], some (.fileUnreadable path e)) := by
    rw [checkedFiles, he]
  rw [checkedFiles_append s h, hstop, List.append_nil]

/-- Either all files can be read, or there is a first one that cannot. -/
theorem readable_or_first (host : Host) (files : List Path) :
    (∀ path ∈ files, Readable host path) ∨
      ∃ before path later e, files = before ++ path :: later ∧
        (∀ q ∈ before, Readable host q) ∧ host.read path = .error e := by
  induction files with
  | nil => exact .inl (List.forall_mem_nil _)
  | cons path files ih =>
    cases hread : host.read path with
    | error e => exact .inr ⟨[], path, files, e, rfl, List.forall_mem_nil _, hread⟩
    | ok text =>
      rcases ih with hall | ⟨before, q, later, e, rfl, hbefore, he⟩
      · exact .inl (List.forall_mem_cons.2 ⟨⟨text, hread⟩, hall⟩)
      · exact .inr ⟨path :: before, q, later, e, rfl,
          List.forall_mem_cons.2 ⟨⟨text, hread⟩, hbefore⟩, he⟩

end

/-! ## The store of a check -/

section

open Store

/-- The last of the paths that look like this. -/
def lastShown? (paths : List Path) (name : Text) : Option Path :=
  paths.reverse.find? (·.display = name)

theorem storeOf_eq (found : Path → List Finding) (files : List Path) :
    storeOf (files.map fun path => (path, found path)) =
      ofHistory (files.map fun path => .replace path.display (found path)) := by
  rw [storeOf, ofHistory, List.foldl_map, List.foldl_map]
  rfl

theorem left_replace (found : Path → List Finding) (files : List Path) (u : Text) :
    left (files.map fun path => .replace path.display (found path)) u =
      (lastShown? files u).map found := by
  rw [left, ← List.map_reverse, List.find?_map, Option.bind_map]
  exact (Option.map_eq_bind ..).symm

theorem lastShown?_isSome {files : List Path} {u : Text} (h : u ∈ files.map Path.display) :
    (lastShown? files u).isSome := by
  obtain ⟨path, hpath, rfl⟩ := List.mem_map.1 h
  rw [lastShown?, List.find?_isSome]
  exact ⟨path, List.mem_reverse.2 hpath, decide_eq_true rfl⟩

theorem recorded_replace (found : Path → List Finding) (files : List Path) :
    recorded (files.map fun path => .replace path.display (found path)) =
      (files.map Path.display).dedup := by
  have huris : (files.map fun path => Operation.replace path.display (found path)).map
      Operation.uri = files.map Path.display := List.map_map
  rw [recorded, huris]
  refine List.filter_eq_self.2 fun u hu => ?_
  rw [left_replace, Option.isSome_map]
  exact lastShown?_isSome (List.mem_dedup.1 hu)

theorem countP_storeOf (p : Finding → Bool) (found : Path → List Finding) (files : List Path) :
    (storeOf (files.map fun path => (path, found path))).findings.countP p =
      ((files.map Path.display).dedup.map fun name =>
        (lastShown? files name).elim 0 fun path => (found path).countP p).sum := by
  rw [storeOf_eq, countP_findings, recorded_replace]
  refine congrArg List.sum (List.map_congr_left fun name _ => ?_)
  rw [left_replace]
  cases lastShown? files name <;> rfl

end

/-! ## Counts -/

def counted (s : Settings) (host : Host) (p : Finding → Bool) (paths : List Path) : Nat :=
  ((paths.map Path.display).dedup.map fun name =>
    (lastShown? paths name).elim 0 fun path => (findingsAt s host path).countP p).sum

section

variable {s : Settings} {host : Host} {paths : List Path} {path : Path} {p : Finding → Bool}

theorem dedup_map_display (h : ShownApart paths) :
    (paths.map Path.display).dedup = paths.dedup.map Path.display := by
  induction paths with
  | nil => rfl
  | cons path paths ih =>
    have hmem : path.display ∈ paths.map Path.display ↔ path ∈ paths := by
      refine ⟨fun hshown => ?_, List.mem_map_of_mem⟩
      obtain ⟨path', hpath', heq⟩ := List.mem_map.1 hshown
      rw [h path List.mem_cons_self path' (List.mem_cons_of_mem _ hpath') heq.symm]
      exact hpath'
    have hlater := ih fun p hp q hq =>
      h p (List.mem_cons_of_mem _ hp) q (List.mem_cons_of_mem _ hq)
    rw [List.map_cons]
    by_cases hpath : path ∈ paths
    · rw [List.dedup_cons_of_mem (hmem.2 hpath), List.dedup_cons_of_mem hpath, hlater]
    · rw [List.dedup_cons_of_notMem (mt hmem.1 hpath), List.dedup_cons_of_notMem hpath, hlater,
        List.map_cons]

theorem lastShown?_display (h : ShownApart paths) (hpath : path ∈ paths) :
    lastShown? paths path.display = some path := by
  obtain ⟨path', hlast⟩ := Option.isSome_iff_exists.1 (lastShown?_isSome (List.mem_map_of_mem hpath))
  have hshown : path'.display = path.display := by simpa using List.find?_some hlast
  have hpath' : path' ∈ paths := List.mem_reverse.1 (List.mem_of_find?_eq_some hlast)
  rw [hlast, h path' hpath' path hpath hshown]

theorem counted_eq_total (h : ShownApart paths) (s : Settings) (host : Host) (p : Finding → Bool) :
    counted s host p paths = total s host p paths := by
  rw [counted, total, dedup_map_display h, List.map_map]
  refine congrArg List.sum (List.map_congr_left fun path hpath => ?_)
  rw [Function.comp_apply, lastShown?_display h (List.mem_dedup.1 hpath)]
  rfl

theorem total_eq_zero :
    total s host p paths = 0 ↔ ∀ path ∈ paths, ∀ f ∈ findingsAt s host path, ¬ p f := by
  rw [total, List.sum_eq_zero_iff_forall_eq_nat, List.forall_mem_map]
  simp only [List.mem_dedup, List.countP_eq_zero]

/-- Counted once for each path or once for each time that it is given, an error is an error. -/
theorem exitCode_eq (s : Settings) (host : Host) (paths : List Path) :
    exitCode s host paths = if total s host Finding.isError paths = 0 then 0 else 1 := by
  have herror : ∀ f : Finding, f.isError = true ↔ f.severity = .error := fun f => beq_iff_eq
  unfold exitCode
  simp only [total_eq_zero, herror]
  split
  · next h =>
    obtain ⟨path, hpath, f, hf, hsevere⟩ := h
    exact (if_neg fun hnone => hnone path hpath f hf hsevere).symm
  · next h =>
    refine (if_pos fun path hpath f hf hsevere => ?_).symm
    exact h ⟨path, hpath, f, hf, hsevere⟩

end

/-! ## Outcomes -/

section

variable {host : Host} {path : Path} {files before : List Path} {e : ReadError}

theorem findingLines_map (s : Settings) (host : Host) (paths : List Path) :
    findingLines (paths.map fun path => (path, findingsAt s host path)) = linesOf s host paths :=
  List.flatMap_map ..

theorem errorCount_storeOf (s : Settings) (host : Host) (paths : List Path) :
    (storeOf (paths.map fun path => (path, findingsAt s host path))).errorCount =
      counted s host Finding.isError paths := countP_storeOf ..

theorem warningCount_storeOf (s : Settings) (host : Host) (paths : List Path) :
    (storeOf (paths.map fun path => (path, findingsAt s host path))).warningCount =
      counted s host Finding.isWarning paths := countP_storeOf ..

theorem reports?_of_text (found : Path → List Finding) (h : ∀ path ∈ files, path.text?.isSome) :
    reports? (files.map fun path => (path, found path)) =
      some (.array (files.map fun path => Rendering.reportJson path.display (found path))) := by
  have hentries : (files.map fun path => (path, found path)).mapM
      (fun (entry : Path × List Finding) => entry.1.text?.map (Rendering.reportJson · entry.2)) =
      some (files.map fun path => Rendering.reportJson path.display (found path)) := by
    induction files with
    | nil => rfl
    | cons path files ih =>
      obtain ⟨t, ht⟩ := Option.isSome_iff_exists.1 (h path List.mem_cons_self)
      have hlater := ih fun q hq => h q (List.mem_cons_of_mem path hq)
      simp only [List.map_cons, List.mapM_cons, hlater, ht, Path.display_of_text? ht,
        Option.map_some, Option.pure_def, Option.bind_eq_bind, Option.bind_some]
  rw [reports?, hentries, Option.map_some]

theorem reports?_of_not_text (found : Path → List Finding) (hpath : path ∈ files)
    (h : path.text? = none) : reports? (files.map fun path => (path, found path)) = none := by
  have hentries : (files.map fun path => (path, found path)).mapM
      (fun (entry : Path × List Finding) => entry.1.text?.map (Rendering.reportJson · entry.2)) =
        none := by
    induction files with
    | nil => cases hpath
    | cons q files ih =>
      rw [List.map_cons, List.mapM_cons]
      rcases List.mem_cons.1 hpath with rfl | hlater
      · simp only [h, Option.map_none, Option.bind_eq_bind, Option.bind_none]
      · simp only [ih hlater, Option.bind_eq_bind, Option.bind_none, Option.bind_fun_none]
  rw [reports?, hentries, Option.map_none]

/-- The text of a check of files that can be read, whatever their paths look like. -/
theorem check_text (s : Settings) (h : ∀ path ∈ files, Readable host path) :
    check s host files .text =
      ⟨if counted s host Finding.isError files = 0 then 0 else 1,
        linesOf s host files ++
          Rendering.summary (counted s host Finding.isError files)
            (counted s host Finding.isWarning files) ++ ['\n'], []⟩ := by
  simp only [check, checkedFiles_of_readable s h, errorCount_storeOf, warningCount_storeOf,
    findingLines_map]

theorem check_json (s : Settings) (h : ∀ path ∈ files, Readable host path)
    (htext : ∀ path ∈ files, path.text?.isSome) :
    check s host files .json =
      ⟨if counted s host Finding.isError files = 0 then 0 else 1,
        (Json.array ((reported s host files).map fun r => Rendering.reportJson r.1 r.2)).text ++
          ['\n'], []⟩ := by
  simp only [check, checkedFiles_of_readable s h, errorCount_storeOf, reports?_of_text _ htext,
    reported, List.map_map]
  rfl

theorem check_json_of_not_text (s : Settings) (h : ∀ path ∈ files, Readable host path)
    (hpath : path ∈ files) (hnone : path.text? = none) :
    check s host files .json = ⟨1, [], Failure.pathNotText.text⟩ := by
  simp only [check, checkedFiles_of_readable s h, reports?_of_not_text _ hpath hnone, failed]

theorem check_of_unreadable (s : Settings) (h : ∀ path ∈ before, Readable host path)
    (he : host.read path = .error e) (later : List Path) :
    check s host (before ++ path :: later) .text =
        ⟨1, linesOf s host before, (Failure.fileUnreadable path e).text⟩ ∧
      check s host (before ++ path :: later) .json =
        ⟨1, [], (Failure.fileUnreadable path e).text⟩ := by
  have hchecked := checkedFiles_of_unreadable s h he later
  constructor
  · simp only [check, hchecked, findingLines_map, failed]
  · simp only [check, hchecked, failed]

end

/-- What a check does. If all files can be read, it prints a line for each finding of each path that
is given, in order, and then counts. If no two of the paths look alike, as is the case for texts, the
counts are over the different paths, and the check fails exactly if one of the files has an error. In
JSON it prints a report for each path that is given, from which all can be read back, unless a path
is no text; then it fails and prints nothing. If a file cannot be read, it fails at the first such
file, after the lines of the files before it, and prints nothing in JSON. -/
theorem check_outcome (s : Settings) (host : Host) (files : List Path) :
    ((∀ path ∈ files, Readable host path) →
      (∃ errors warnings, (check s host files .text).output =
        linesOf s host files ++ Rendering.summary errors warnings ++ ['\n']) ∧
      (ShownApart files → check s host files .text =
        ⟨exitCode s host files,
          linesOf s host files ++
            Rendering.summary (total s host Finding.isError files)
              (total s host Finding.isWarning files) ++ ['\n'], []⟩) ∧
      ((∀ path ∈ files, path.text?.isSome) →
        ShownApart files ∧
        check s host files .json =
          ⟨exitCode s host files,
            (Json.array ((reported s host files).map fun r => Rendering.reportJson r.1 r.2)).text ++
              ['\n'], []⟩ ∧
        (∀ v : Json, (check s host files .json).output = v.text ++ ['\n'] →
          v = .array ((reported s host files).map fun r => Rendering.reportJson r.1 r.2)) ∧
        ∀ reports : List (Text × List Finding), (check s host files .json).output =
            (Json.array (reports.map fun r => Rendering.reportJson r.1 r.2)).text ++ ['\n'] →
          reports = reported s host files) ∧
      ((∃ path ∈ files, path.text? = none) →
        check s host files .json = ⟨1, [], Failure.pathNotText.text⟩)) ∧
    ∀ i path e, files[i]? = some path → host.read path = .error e →
      (∀ q ∈ files.take i, Readable host q) →
      check s host files .text =
        ⟨1, linesOf s host (files.take i), (Failure.fileUnreadable path e).text⟩ ∧
      check s host files .json = ⟨1, [], (Failure.fileUnreadable path e).text⟩ := by
  have hcode (hshown : ShownApart files) :
      (if counted s host Finding.isError files = 0 then 0 else 1) = exitCode s host files := by
    rw [counted_eq_total hshown, exitCode_eq]
  refine ⟨fun h => ⟨⟨_, _, by rw [check_text s h]⟩, fun hshown => ?_, fun htext => ?_, ?_⟩,
    fun i path e hpath he hbefore => ?_⟩
  · rw [check_text s h, hcode hshown, counted_eq_total hshown, counted_eq_total hshown]
  · have hshown := shownApart_of_text htext
    have hjson := check_json s h htext
    rw [hcode hshown] at hjson
    rw [hjson]
    refine ⟨hshown, rfl, fun v hv => ?_, fun reports hreports => ?_⟩
    · exact (Json.text_inj (List.append_cancel_right hv)).symm
    · exact (Rendering.reports_inj (List.append_cancel_right hreports)).symm
  · rintro ⟨path, hpath, hnone⟩
    exact check_json_of_not_text s h hpath hnone
  · obtain ⟨hi, hget⟩ := List.getElem?_eq_some_iff.1 hpath
    have hsplit : files = files.take i ++ path :: files.drop (i + 1) := by
      rw [← hget, List.getElem_cons_drop, List.take_append_drop]
    have houtcome := check_of_unreadable s hbefore he (files.drop (i + 1))
    rwa [← hsplit] at houtcome

/-- A host with a file that has an error and a warning, and two that have neither. One of these is
at a path that is no text. -/
def twoFiles : Host where
  read path :=
    if path = .ofText "a.dav".toList then .ok "FinSi.\nAffiche x".toList
    else if path = .ofText "b.dav".toList then .ok "Si x.\nFinSi.".toList
    else if path = [0xFF] then .ok []
    else .error .notFound
  isFile path := path = .ofText "a.dav".toList || path = .ofText "b.dav".toList || path = [0xFF]
  launch _ _ := .error .notFound

def readablePaths : List Path := ["a.dav".toList, "b.dav".toList, "a.dav".toList].map .ofText

def interruptedPaths : List Path := ["a.dav".toList, "c.dav".toList, "b.dav".toList].map .ofText

theorem twoFiles_check :
    (∀ path ∈ readablePaths, Readable twoFiles path) ∧
    (∀ path ∈ readablePaths, path.text?.isSome) ∧
    (check .default twoFiles readablePaths .text).code = 1 ∧
    "1 erreur(s), 1 avertissement(s)\n".toList <:+
      (check .default twoFiles readablePaths .text).output ∧
    (check .default twoFiles readablePaths .json).code = 1 ∧
    (check .default twoFiles [[0xFF]] .json).output = [] ∧
    twoFiles.read (.ofText "c.dav".toList) = .error .notFound ∧
    (check .default twoFiles interruptedPaths .text).output =
      linesOf .default twoFiles [.ofText "a.dav".toList] ∧
    (check .default twoFiles interruptedPaths .json).output = [] := by
  have ha : Readable twoFiles (.ofText "a.dav".toList) := ⟨_, rfl⟩
  have hb : Readable twoFiles (.ofText "b.dav".toList) := ⟨_, rfl⟩
  have hc : twoFiles.read (.ofText "c.dav".toList) = .error .notFound := rfl
  have hall : ∀ path ∈ readablePaths, Readable twoFiles path := by
    simp only [readablePaths, List.map_cons, List.map_nil, List.forall_mem_cons]
    exact ⟨ha, hb, ha, List.forall_mem_nil _⟩
  have htext : ∀ path ∈ readablePaths, path.text?.isSome := by decide +kernel
  obtain ⟨-, hshown, hjson, -⟩ := (check_outcome .default twoFiles readablePaths).1 hall
  obtain ⟨happart, hreport, -⟩ := hjson htext
  have hraw : ∀ path ∈ [[0xFF]], Readable twoFiles path := List.forall_mem_singleton.2 ⟨_, rfl⟩
  have hfailed := ((check_outcome .default twoFiles [[0xFF]]).1 hraw).2.2.2
    ⟨[0xFF], List.mem_singleton_self _, by decide +kernel⟩
  have hbefore : ∀ q ∈ interruptedPaths.take 1, Readable twoFiles q := List.forall_mem_singleton.2 ha
  have hstop := (check_outcome .default twoFiles interruptedPaths).2 1 _ _ rfl hc hbefore
  refine ⟨hall, htext, ?_, ?_, ?_, ?_, hc, ?_, ?_⟩
  · rw [hshown happart]
    decide +kernel
  · rw [hshown happart]
    decide +kernel
  · rw [hreport]
    decide +kernel
  · rw [hfailed]
  · rw [hstop.1]
    rfl
  · rw [hstop.2]

def pathOfByte (b : UInt8) : Path := b :: Path.ofText ".dav".toList

/-- Two paths that look alike, the first with an error and the second without. -/
def lookalikes : Host where
  read path :=
    if path = pathOfByte 0xFF then .ok "FinSi.".toList
    else if path = pathOfByte 0xFE then .ok "Si x.\nFinSi.".toList
    else .error .notFound
  isFile path := path = pathOfByte 0xFF || path = pathOfByte 0xFE
  launch _ _ := .error .notFound

def lookalikePaths : List Path := [pathOfByte 0xFF, pathOfByte 0xFE]

/-- Paths that look alike are one to the store, which forgets the error of the first; and the second,
without any error, has no report in JSON. -/
theorem lookalikes_check :
    (∀ path ∈ lookalikePaths, Readable lookalikes path) ∧
    (∃ path ∈ lookalikePaths, ∃ f ∈ findingsAt .default lookalikes path, f.severity = .error) ∧
    (check .default lookalikes lookalikePaths .text).code = 0 ∧
    (check .default lookalikes lookalikePaths .text).output =
      linesOf .default lookalikes lookalikePaths ++ Rendering.summary 0 0 ++ ['\n'] ∧
    total .default lookalikes Finding.isError lookalikePaths = 1 ∧
    findingsAt .default lookalikes (pathOfByte 0xFE) = [] ∧
    (check .default lookalikes [pathOfByte 0xFE] .json).code = 1 ∧
    (check .default lookalikes [pathOfByte 0xFE] .json).output = [] := by
  refine ⟨?_, ?_, ?_, ?_, ?_, ?_, ?_, ?_⟩
  · exact List.forall_mem_cons.2 ⟨⟨_, rfl⟩, List.forall_mem_singleton.2 ⟨_, rfl⟩⟩
  all_goals decide +kernel

end Bilingua.Command
