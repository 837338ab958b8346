import ReceiptRules.Proofs.CommandLine.RepeatedRuns

/-!
# Calls that end with a usage error

Arguments that cannot be read are refused before anything is done. One complaint comes later: that a
report in markdown needs a file to be written to is only found once the report is there. Such a call
leaves behind what its run has written, that is a new file of rules and the archive numbers that were
given out, although nobody gets to see its report.
-/

namespace ReceiptRules

namespace Files

variable {files files' : Files} {p : Path} {text : String}

/-- Writing changes something if and only if the file did not have the text already. -/
theorem exists_find?_ne_iff_of_write (h : files.write p text = .ok files') :
    (∃ q, files'.find? q ≠ files.find? q) ↔ files.find? p ≠ some text := by
  have hfind := find?_of_write h
  constructor
  · rintro ⟨q, hq⟩
    rw [hfind q] at hq
    split at hq
    · next hqp =>
      rw [hqp] at hq
      exact hq.symm
    · exact absurd rfl hq
  · intro hne
    refine ⟨p, ?_⟩
    rw [hfind p, if_pos rfl]
    exact hne.symm

end Files

namespace CommandLine.Classify

variable {env : Environment} {now : Timestamp} {today : Date} {arguments : List String}
  {a : Arguments} {request : Request} {report : Report} {files files' : Files}
  {place place' opened : Place} {line : String}

/-! ## Where usage errors come from -/

/-- A report in markdown is wanted, and no file to write it to is named. -/
def Unplaced (a : Arguments) : Prop := a.value? format = some "markdown" ∧ a.value? out = none

def unplacedComplaint (env : Environment) : String :=
  (interface env).complaint (.needs "--format markdown" "--out")

theorem deliver_of_unplaced (h : Unplaced a) (report : Report) (files : Files) :
    deliver env a report files = (.usage (unplacedComplaint env), files) := by
  rw [deliver, h.1, h.2]
  rfl

theorem unplaced_of_deliver (h : deliver env a report files = (.usage line, files')) :
    Unplaced a := by
  unfold deliver at h
  dsimp only at h
  split at h
  · split at h <;> cases h
  · next hformat hout => exact ⟨beq_iff_eq.mp hformat, Option.map_eq_none_iff.mp hout⟩
  · split at h <;> cases h
  · cases h

/-- How a call comes to end with a usage error: its arguments are refused, or its run succeeds and
there is no place for the report. -/
inductive Complains (env : Environment) (now : Timestamp) (today : Date) (arguments : List String)
    (place : Place) : String → Place → Prop
  | refused (e : UsageError) (h : (interface env).read arguments = .error (.usage e)) :
    Complains env now today arguments place ((interface env).complaint e) place
  | unplaced (a : Arguments) (request : Request) (report : Report) (ran : Place)
    (hread : (interface env).read arguments = .ok a) (h : Unplaced a)
    (hrequest : Classify.request env a = .ok request)
    (hrun : run now today request place = (.ok report, ran)) :
    Complains env now today arguments place (unplacedComplaint env) ran

theorem command_eq_usage_iff : command env now today arguments place = (.usage line, place') ↔
    Complains env now today arguments place line place' := by
  constructor
  · intro h
    unfold command at h
    split at h
    · cases h
    · next e hread =>
      cases h
      exact .refused e hread
    · next a hread =>
      split at h
      · cases h
      · next request hrequest =>
        split at h
        · cases h
        · next report ran hrun =>
          cases hdeliver : deliver env a report ran.files with
          | mk ending files =>
            rw [hdeliver] at h
            cases h
            have hunplaced := unplaced_of_deliver hdeliver
            rw [deliver_of_unplaced hunplaced] at hdeliver
            cases hdeliver
            exact .unplaced a request report ran hread hunplaced hrequest hrun
  · intro h
    cases h with
    | refused e h => simp only [command, h]
    | unplaced a request report ran hread h hrequest hrun =>
      simp only [command, hread, hrequest, hrun, deliver_of_unplaced h]

/-! ## What a run writes -/

/-- The run fills a file of rules that was not there, or the file of numbers does not have the text
yet that the run leaves it with. -/
def Writes (request : Request) (report : Report) (files : Files) : Prop :=
  (∃ p, request.rules = some p ∧ ¬ files.isThere p = true) ∨
    ∃ p, request.numbers = some p ∧
      files.find? p ≠ some (numbersText (held files p ++ issued report))

/-- Writing down the numbers removes no file. -/
theorem find?_ne_none_of_record {path : Option Path} {numbers : List String} {p : Path}
    (h : record path numbers files = .ok files') (hp : files.find? p ≠ none) :
    files'.find? p ≠ none := by
  cases path with
  | none =>
    cases h
    exact hp
  | some q =>
    rw [Files.find?_of_write h p]
    split
    · exact Option.some_ne_none _
    · exact hp

theorem Completed.exists_find?_ne_iff (h : Completed now today request place report files') :
    (∃ q, files'.find? q ≠ place.files.find? q) ↔ Writes request report place.files := by
  obtain ⟨settings, store, opened, known, counters, receipts, moved, -, hstore, hknown, -, -,
    hrecord⟩ := h
  have hheld {p : Path} (hp : request.numbers = some p) : held place.files p = known := by
    rw [hp] at hknown
    rw [← held_of_openStore hstore p, held_of_readNumbers hknown]
  have hopening := opening_of_openStore hstore
  clear hstore hknown
  generalize opened.files = between at hopening hrecord
  cases hopening with
  | kept hthere =>
    have hkept : ¬ ∃ p, request.rules = some p ∧ ¬ place.files.isThere p = true := by
      rintro ⟨p, hp, hnot⟩
      exact hnot (hthere p hp)
    rw [Writes, or_iff_right hkept]
    cases hnumbers : request.numbers with
    | none =>
      rw [hnumbers] at hrecord
      cases hrecord
      simp
    | some p =>
      rw [hnumbers] at hrecord
      rw [Files.exists_find?_ne_iff_of_write hrecord, ← hheld hnumbers]
      simp
  | filled p store between hrules hthere hplain hwrite =>
    refine iff_of_true ⟨p, ?_⟩ (.inl ⟨p, hrules, hthere⟩)
    rw [Files.find?_eq_none_of_not_isThere hthere]
    apply find?_ne_none_of_record hrecord
    rw [Files.find?_of_write hwrite, if_pos rfl]
    exact Option.some_ne_none _

/-! ## When a usage error costs something -/

/-- A call that complains changes a file if and only if it complains of a report without a place
behind a run that writes. -/
theorem usage_changes_files_iff (env : Environment) (now : Timestamp) (today : Date)
    (arguments : List String) (place : Place) :
    (∃ line place', command env now today arguments place = (.usage line, place') ∧
      ∃ p, place'.files.find? p ≠ place.files.find? p) ↔
    ∃ a request report ran, (interface env).read arguments = .ok a ∧ Unplaced a ∧
      Classify.request env a = .ok request ∧
      run now today request place = (.ok report, ran) ∧ Writes request report place.files := by
  constructor
  · rintro ⟨line, place', hcommand, hchanged⟩
    cases command_eq_usage_iff.mp hcommand with
    | refused e h =>
      obtain ⟨p, hp⟩ := hchanged
      exact absurd rfl hp
    | unplaced a request report ran hread h hrequest hrun =>
      have hwrites := (run_eq_ok hrun).exists_find?_ne_iff.mp hchanged
      exact ⟨a, request, report, _, hread, h, hrequest, hrun, hwrites⟩
  · rintro ⟨a, request, report, ran, hread, h, hrequest, hrun, hwrites⟩
    have hcomplains := Complains.unplaced a request report ran hread h hrequest hrun
    have hchanged := (run_eq_ok hrun).exists_find?_ne_iff.mpr hwrites
    exact ⟨_, ran, command_eq_usage_iff.mpr hcomplains, hchanged⟩

def unseenArguments : List String :=
  ["receipts", "--rules", "rules", "--config", "config", "--format", "markdown"]

/-- There is no file of rules yet, and receipts that no rule matches get numbers. -/
def unseenPlace : Place := ⟨{ entries := [(inFolder "receipts", "[\x7b\x7d]"),
  (inFolder "config", "\x7b\"unmatched_generate_archive_number\": true\x7d")] }, 0⟩

/-- The call complains, and yet there are rules and a number behind it that were not there before. -/
theorem unseen_report_seeds_and_numbers : ∃ after,
    command [] (.midnight july) july unseenArguments unseenPlace =
      (.usage "run_classification: error: --format markdown requires --out", after) ∧
    unseenPlace.files.find? (inFolder "rules") = none ∧
    after.files.find? (inFolder "rules") ≠ none ∧
    held unseenPlace.files (inFolder "rules.archive_numbers.json") = [] ∧
    held after.files (inFolder "rules.archive_numbers.json") = ["2024-07-OTH-0001"] := by
  have hseen : (match command [] (.midnight july) july unseenArguments unseenPlace with
      | (.usage line, after) => some (line, (after.files.find? (inFolder "rules")).isSome,
        held after.files (inFolder "rules.archive_numbers.json"))
      | _ => none) = some ("run_classification: error: --format markdown requires --out", true,
        ["2024-07-OTH-0001"]) := by
    decide +kernel
  split at hseen
  · next line after hcommand =>
    simp only [Option.some.injEq, Prod.mk.injEq] at hseen
    obtain ⟨rfl, hrules, hheld⟩ := hseen
    refine ⟨after, hcommand, rfl, ?_, held_of_find?_eq_none rfl, hheld⟩
    exact Option.isSome_iff_ne_none.mp hrules
  · cases hseen

end CommandLine.Classify

end ReceiptRules
