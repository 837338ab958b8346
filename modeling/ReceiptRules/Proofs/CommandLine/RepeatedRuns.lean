import ReceiptRules.Proofs.Batch.Numbering
import ReceiptRules.Proofs.CommandLine.NumbersFile
import ReceiptRules.Proofs.Store.Seeding

/-!
# Repeated runs

Runs that keep their numbers in one file never give a number twice, whatever rules, receipts and
settings they work on, as long as the code that stands in for a missing one is fit to be a code. A run
that succeeds adds its numbers to those in the file, and a run that fails leaves them as they are.
-/

namespace ReceiptRules.CommandLine.Classify

open ArchiveNumber Text

variable {settings : Settings} {now : Timestamp} {today : Date} {request : Request}
  {place place' : Place} {report : Report} {p : Path}

/-! ## The steps of a run -/

theorem seeded_eq_ok {drawn : Nat} {desk : Desk} (h : seeded settings now drawn = .ok desk) :
    Json.Plain desk.store.toDocument := by
  have hplain := SystemRules.plain_seed settings now drawn
  rw [seeded] at h
  generalize SystemRules.registry.seed now ⟨.empty settings, drawn⟩ = seeding at *
  obtain ⟨added, filled⟩ := seeding
  obtain ⟨rules, -, rfl⟩ := Except.map_eq_ok_iff.mp h
  exact hplain

/-- Opening a store writes nothing, or a file of rules that was not there. -/
inductive Opening (path : Option Path) (files : Files) : Files → Prop
  | kept (h : ∀ p, path = some p → files.isThere p = true) : Opening path files files
  | filled (p : Path) (store : Store) (files' : Files) (hpath : path = some p)
    (hthere : ¬ files.isThere p = true) (hplain : Json.Plain store.toDocument)
    (hwrite : files.write p store.saved = .ok files') : Opening path files files'

theorem opening_of_openStore {store : Store} {path : Option Path}
    (h : openStore settings now path place = .ok (store, place')) :
    Opening path place.files place'.files := by
  cases path with
  | none =>
    rw [openStore] at h
    obtain ⟨desk, -, heq⟩ := Except.map_eq_ok_iff.mp h
    cases heq
    exact .kept fun p hp ↦ nomatch hp
  | some q =>
    rw [openStore] at h
    split at h
    · next hthere =>
      obtain ⟨text, -, h⟩ := Except.bind_eq_ok_iff.mp h
      obtain ⟨store', -, h⟩ := Except.bind_eq_ok_iff.mp h
      cases h
      refine .kept fun p hp ↦ ?_
      cases hp
      exact hthere
    · next hthere =>
      obtain ⟨desk, hdesk, h⟩ := Except.bind_eq_ok_iff.mp h
      have hplain := seeded_eq_ok hdesk
      clear hdesk
      obtain ⟨files, hwrite, h⟩ := Except.bind_eq_ok_iff.mp h
      cases h
      exact .filled q desk.store files rfl hthere hplain hwrite

/-- Opening a store leaves the numbers in every file alone, even in the one that it writes. -/
theorem held_of_openStore {store : Store} {path : Option Path}
    (h : openStore settings now path place = .ok (store, place')) (p : Path) :
    held place'.files p = held place.files p := by
  have hopening := opening_of_openStore h
  generalize place'.files = files' at hopening
  cases hopening with
  | kept h => rfl
  | filled q store files' hpath hthere hplain hwrite =>
    have hfind := Files.find?_of_write hwrite p
    by_cases hp : p = q
    · subst hp
      rw [if_pos rfl] at hfind
      rw [held_saved hplain hfind,
        held_of_find?_eq_none (Files.find?_eq_none_of_not_isThere hthere)]
    · rw [if_neg hp] at hfind
      exact held_congr hfind

/-- What a run that succeeds has gone through. -/
inductive Completed (now : Timestamp) (today : Date) (request : Request) (place : Place)
    (report : Report) (files : Files) : Prop
  | intro (settings : Settings) (store : Store) (opened : Place) (known : List String)
    (counters : Counters) (receipts : List Receipt) (moved : Option Counters)
    (hsettings : readSettings place.files request.config = .ok settings)
    (hstore : openStore settings now request.rules place = .ok (store, opened))
    (hknown : readNumbers opened.files request.numbers = .ok known)
    (hcounters : Counters.ofNumbers known = .ok counters)
    (hrun : Batch.run settings ⟨request.asOf, today⟩ now (opened.drawn + 1) store.enabledRules
      receipts (some counters) = (.ok report, moved))
    (hrecord : record request.numbers (known ++ issued report) opened.files = .ok files)

theorem classify_eq_ok {store : Store} {known : List String}
    (h : classify settings store now today request place = .ok (report, known)) :
    readNumbers place.files request.numbers = .ok known ∧
      ∃ counters receipts moved, Counters.ofNumbers known = .ok counters ∧
        Batch.run settings ⟨request.asOf, today⟩ now (place.drawn + 1) store.enabledRules receipts
          (some counters) = (.ok report, moved) := by
  rw [classify] at h
  obtain ⟨known', hknown, h⟩ := Except.bind_eq_ok_iff.mp h
  cases hcounters : Counters.ofNumbers known' with
  | error e =>
    rw [hcounters] at h
    cases h
  | ok counters =>
    rw [hcounters] at h
    obtain ⟨counters', hpure, h⟩ := Except.bind_eq_ok_iff.mp h
    cases hpure
    obtain ⟨listing, -, h⟩ := Except.bind_eq_ok_iff.mp h
    obtain ⟨receipts, -, h⟩ := Except.bind_eq_ok_iff.mp h
    obtain ⟨report', hreport, h⟩ := Except.bind_eq_ok_iff.mp h
    cases h
    exact ⟨hknown, counters, receipts, _, hcounters, Prod.ext hreport rfl⟩

theorem opened_eq_ok {store : Store} {opened : Place}
    (h : (do
      let settings ← readSettings place.files request.config
      let (store, place) ← openStore settings now request.rules place
      return (settings, store, place)) = Except.ok (settings, store, opened)) :
    readSettings place.files request.config = .ok settings ∧
      openStore settings now request.rules place = .ok (store, opened) := by
  obtain ⟨settings', hsettings, h⟩ := Except.bind_eq_ok_iff.mp h
  obtain ⟨⟨store', opened'⟩, hstore, h⟩ := Except.bind_eq_ok_iff.mp h
  cases h
  exact ⟨hsettings, hstore⟩

theorem run_eq_ok (h : run now today request place = (.ok report, place')) :
    Completed now today request place report place'.files := by
  simp only [run] at h
  split at h
  · cases h
  · next settings store opened hopened =>
    obtain ⟨hsettings, hstore⟩ := opened_eq_ok hopened
    split at h
    · cases h
    · next report' known hclassify =>
      obtain ⟨hknown, counters, receipts, moved, hcounters, hrun⟩ := classify_eq_ok hclassify
      split at h
      · cases h
      · next files hrecord =>
        cases h
        exact .intro settings store opened known counters receipts moved hsettings hstore hknown
          hcounters hrun hrecord

/-- A run that fails leaves the numbers in the file alone. -/
theorem held_of_run_eq_error {e : Failure} (h : run now today request place = (.error e, place'))
    (p : Path) : held place'.files p = held place.files p := by
  simp only [run] at h
  split at h
  · cases h
    rfl
  · next settings store opened hopened =>
    have hheld := held_of_openStore (opened_eq_ok hopened).2 p
    split at h
    · cases h
      exact hheld
    · split at h
      · cases h
        exact hheld
      · cases h

/-! ## One run -/

/-- Whatever the settings of a run are, the code that stands in for a missing one is fit to be one. -/
def FitCode (request : Request) (files : Files) : Prop :=
  ∀ settings, readSettings files request.config = .ok settings → IsCode settings.defaultCode

theorem fitCode_of_readSettings {files : Files} (code : String)
    (h : (readSettings files request.config).toOption.map Settings.defaultCode = some code)
    (hcode : IsCode code) : FitCode request files := by
  intro settings hsettings
  rw [hsettings] at h
  cases h
  exact hcode

theorem issued_eq_numbers (h : ∀ number ∈ report.numbers, number ≠ "") :
    issued report = report.numbers := by
  refine List.filter_eq_self.mpr fun number hnumber ↦ ?_
  simpa using h number hnumber

theorem format_ne_empty (key : NumberKey) (n : Nat) : ArchiveNumber.format key n ≠ "" := by
  intro h
  have hchars := congrArg String.toList h
  simp [ArchiveNumber.format, chars_ofNat] at hchars

/-- What a run that succeeds does to the file of archive numbers. -/
structure Adds (files : Files) (p : Path) (report : Report) (files' : Files) : Prop where
  nodup : report.numbers.Nodup
  fresh : ∀ number ∈ report.numbers, number ∉ held files p
  readNumbers_eq :
    readNumbers files' (some p) = .ok (Ordered.ofList (held files p ++ report.numbers))

theorem Completed.adds {files : Files} (h : Completed now today request place report files)
    (hp : request.numbers = some p) (hcode : FitCode request place.files) :
    Adds place.files p report files := by
  obtain ⟨settings, store, opened, known, counters, receipts, moved, hsettings, hstore, hknown,
    hcounters, hrun, hrecord⟩ := h
  rw [hp] at hknown hrecord
  have hheld : held place.files p = known := by
    rw [← held_of_openStore hstore p, held_of_readNumbers hknown]
  obtain ⟨keys, hrequests, hwritable, hnumbers⟩ := Batch.numbers_of_run hrun
  have hkeys : ∀ key ∈ keys, IsKey key := fun key hkey ↦
    (hrequests key hkey).isKey (hcode settings hsettings)
  have hissued : issued report = report.numbers := by
    apply issued_eq_numbers
    intro number hnumber
    rw [hnumbers] at hnumber
    obtain ⟨key, n, -, rfl⟩ := Counters.mem_numbersOf.mp hnumber
    exact format_ne_empty key n
  refine ⟨?_, ?_, ?_⟩
  · rw [hnumbers]
    exact Counters.nodup_numbersOf fun key hkey ↦ (hkeys key hkey).period
  · intro number hnumber
    rw [hheld]
    rw [hnumbers] at hnumber
    exact Counters.notMem_of_mem_numbersOf hcounters hkeys hwritable hnumber
  · rw [hissued, record] at hrecord
    have hfind := Files.find?_of_write hrecord p
    rw [if_pos rfl] at hfind
    rw [hheld, readNumbers_numbersText hfind]

/-! ## One run after the other -/

structure Call where
  now : Timestamp
  today : Date
  request : Request
  place : Place

namespace Call

def answer (call : Call) : Except Failure Report :=
  (run call.now call.today call.request call.place).1

/-- The files that a call leaves behind. -/
def files (call : Call) : Files := (run call.now call.today call.request call.place).2.files

/-- The numbers that a call gives out: those of its report, if it gets so far. -/
def numbers (call : Call) : List String :=
  match call.answer with
  | .ok report => report.numbers
  | .error _ => []

end Call

/-- Calls one after the other that keep their numbers in the file at a path, which nobody else
touches. All other files may be changed at will between two calls. -/
def Successive (p : Path) : Files → List Call → Prop
  | _, [] => True
  | files, call :: rest =>
    call.request.numbers = some p ∧ FitCode call.request call.place.files ∧
      call.place.files.find? p = files.find? p ∧ Successive p call.files rest

/-- What holds of the numbers of calls on one file, and of the file behind each of them. -/
structure NumbersKept (p : Path) (files : Files) (calls : List Call) : Prop where
  nodup : (calls.flatMap Call.numbers).Nodup
  fresh : ∀ number ∈ calls.flatMap Call.numbers, number ∉ held files p
  recorded : ∀ call ∈ calls, ∀ report, call.answer = .ok report →
    ∃ numbers, readNumbers call.files (some p) = .ok numbers ∧ numbers.Pairwise (· < ·) ∧
      ∀ number, number ∈ numbers ↔ number ∈ held call.place.files p ∨ number ∈ report.numbers

theorem Call.adds {call : Call} (hp : call.request.numbers = some p)
    (hcode : FitCode call.request call.place.files) (h : call.answer = .ok report) :
    Adds call.place.files p report call.files := by
  have hrun : run call.now call.today call.request call.place = (.ok report, _) := Prod.ext h rfl
  exact (run_eq_ok hrun).adds hp hcode

/-- Whether a call succeeds or not, its numbers are new, and the file holds them behind it together
with those of before. -/
theorem numbers_of_call {call : Call} (hp : call.request.numbers = some p)
    (hcode : FitCode call.request call.place.files) :
    call.numbers.Nodup ∧ (∀ number ∈ call.numbers, number ∉ held call.place.files p) ∧
      ∀ number, number ∈ held call.files p ↔
        number ∈ held call.place.files p ∨ number ∈ call.numbers := by
  cases hanswer : call.answer with
  | error e =>
    have hrun : run call.now call.today call.request call.place = (.error e, _) :=
      Prod.ext hanswer rfl
    have hheld : held call.files p = held call.place.files p := held_of_run_eq_error hrun p
    simp [Call.numbers, hanswer, hheld]
  | ok report =>
    have hadds := Call.adds hp hcode hanswer
    have hnumbers : call.numbers = report.numbers := by rw [Call.numbers, hanswer]
    rw [hnumbers, held_of_readNumbers hadds.readNumbers_eq]
    refine ⟨hadds.nodup, hadds.fresh, fun number ↦ ?_⟩
    rw [Ordered.mem_ofList, List.mem_append]

/-- Successive calls never give an archive number twice, nor one that the file held before the first
of them, and a call that succeeds leaves the file with the numbers of before and its own. -/
theorem numbersKept_of_successive {files : Files} {calls : List Call}
    (h : Successive p files calls) : NumbersKept p files calls := by
  -- What the file holds behind a call includes all that has been given out, so it is enough that the
  -- numbers of the later calls are not in the file behind the first.
  induction calls generalizing files with
  | nil => exact ⟨.nil, by simp, by simp⟩
  | cons call rest ih =>
    obtain ⟨hp, hcode, hfind, hrest⟩ := h
    obtain ⟨hnodup, hfresh, hheld⟩ := numbers_of_call hp hcode
    have hkept := ih hrest
    constructor
    · rw [List.flatMap_cons]
      refine List.nodup_append.mpr ⟨hnodup, hkept.nodup, ?_⟩
      rintro number hnumber number' hnumber' rfl
      exact hkept.fresh number hnumber' ((hheld number).mpr (.inr hnumber))
    · intro number hnumber
      rw [← held_congr hfind]
      rcases List.mem_append.mp hnumber with hnumber | hnumber
      · exact hfresh number hnumber
      · exact fun hmem ↦ hkept.fresh number hnumber ((hheld number).mpr (.inl hmem))
    · intro call' hcall' report hanswer
      rcases List.mem_cons.mp hcall' with rfl | hcall'
      · refine ⟨_, (Call.adds hp hcode hanswer).readNumbers_eq, Ordered.pairwise_ofList _, ?_⟩
        intro number
        rw [Ordered.mem_ofList, List.mem_append]
      · exact hkept.recorded call' hcall' report hanswer

/-! ## Two calls -/

def july : Date := ⟨2024, 7, 16, by decide⟩

def inFolder (name : String) : Path := ⟨false, [name]⟩

/-- A call that numbers one receipt which no rule matches. -/
def numberOne (place : Place) : Call where
  now := .midnight july
  today := july
  request := ⟨inFolder "receipts", some (inFolder "rules"), some (inFolder "config"),
    some (inFolder "numbers"), none⟩
  place := place

/-- The file of numbers holds one that is read and one that is not. -/
def firstCall : Call := numberOne ⟨{ entries := [
  (inFolder "receipts", "[\x7b\x7d]"), (inFolder "rules", "\x7b\x7d"),
  (inFolder "config", "\x7b\"unmatched_generate_archive_number\": true\x7d"),
  (inFolder "numbers", "[\"2024-07-OTH-0007\", \"2023/12\"]")] }, 0⟩

def secondCall : Call := numberOne ⟨firstCall.files, 1⟩

theorem numbersKept_twoCalls :
    Successive (inFolder "numbers") firstCall.place.files [firstCall, secondCall] ∧
      firstCall.numbers = ["2024-07-OTH-0008"] ∧ secondCall.numbers = ["2024-07-OTH-0009"] ∧
      NumbersKept (inFolder "numbers") firstCall.place.files [firstCall, secondCall] := by
  have hfirst : FitCode firstCall.request firstCall.place.files :=
    fitCode_of_readSettings "OTH" (by decide +kernel) (by decide)
  have hsecond : FitCode secondCall.request secondCall.place.files :=
    fitCode_of_readSettings "OTH" (by decide +kernel) (by decide)
  have hcalls : Successive (inFolder "numbers") firstCall.place.files [firstCall, secondCall] :=
    ⟨rfl, hfirst, rfl, rfl, hsecond, rfl, trivial⟩
  exact ⟨hcalls, by decide +kernel, by decide +kernel, numbersKept_of_successive hcalls⟩

end ReceiptRules.CommandLine.Classify
