import StructScan.File.Open
import StructScan.Proofs.Scan.CleanReport
import StructScan.Proofs.Scan.Observation

/-!
# Scans of files

A file is opened under its path in a text encoding.  If it cannot be read, the scan of it is
finished before it starts, and its report holds the one error that says so.  If it can be read,
the scan goes through the tokens of its content and never fails, since content that cannot be
decoded just holds no line.  The report then tells whether the tokens are clean.

Main results:

- Theorem `openScan_cases`: what opening a file leads to.
- Theorem `openScan_unreported`: a report makes no difference to that.
- Theorem `exists_rest_of_openScan`: a scan of a file never fails.
- Theorem `Scanned.passed_iff`: the report passes exactly if the file can be read and is clean.
-/

namespace StructScan

open TokenStream

/-! ## Opening -/

/-- The opened file without the report of its scan. -/
def OpenedScan.unreported (o : OpenedScan) : OpenedScan :=
  { o with scan := o.scan.unreported }

/-- A file is opened without a report as it is with one. -/
theorem openScan_unreported (d : Disk) (p : Path) (encoding : String) (report : Option Report) :
    openScan d p encoding = (openScan d p encoding report).map OpenedScan.unreported := by
  unfold openScan
  dsimp only
  split
  · rfl
  · split
    · rfl
    · split
      · rfl
      · split
        · rfl
        · rfl

/-- A file that is opened cannot be read, or its content is scanned. -/
theorem openScan_cases {d : Disk} {p : Path} {encoding : String} {report : Option Report}
    {o : OpenedScan} (h : openScan d p encoding report = .ok o) :
    (∃ errno, d.read p = .error errno ∧
      o = ⟨Scan.nothing (report.map fun r =>
        (r.about p).error ⟨0, Diagnostic.sourceUnavailable, unavailable p errno⟩),
        some (unavailable p errno)⟩) ∨
    ∃ bytes e, d.read p = .ok bytes ∧ Encoding.ofName encoding = .ok e ∧
      o = ⟨Scan.ofSource (Source.ofBytes e bytes) (report.map fun r => r.about p), none⟩ := by
  unfold openScan at h
  dsimp only at h
  split at h
  · contradiction
  · split at h
    · contradiction
    · split at h
      · rename_i errno hread
        cases h
        refine .inl ⟨errno, hread, ?_⟩
        rw [Option.map_map]
        rfl
      · rename_i bytes hread
        split at h
        · contradiction
        · rename_i e hencoding
          cases h
          exact .inr ⟨bytes, e, hread, hencoding, rfl⟩

/-- A file that can be looked for under its path in a known encoding can be scanned. -/
theorem exists_openScan {p : Path} {encoding : String} {e : Encoding} (hnul : p.hasNul = false)
    (hname : Encoding.isName encoding = true) (hencoding : Encoding.ofName encoding = .ok e)
    (d : Disk) (report : Option Report) : ∃ o, openScan d p encoding report = .ok o := by
  simp only [openScan, hname, hnul, hencoding, Bool.not_true, Bool.false_eq_true, if_false]
  cases d.read p with
  | error e => exact ⟨_, rfl⟩
  | ok bytes => exact ⟨_, rfl⟩

/-! ## The tokens of a content -/

/-- Content of a file ends without a failure, whether it can be decoded or not. -/
theorem Source.fault?_ofBytes (e : Encoding) (bytes : Bytes) :
    (Source.ofBytes e bytes).fault? = none := by
  unfold ofBytes
  split
  · rfl
  · rfl

/-- The tokens of the content of a file. -/
def tokensOfBytes (e : Encoding) (bytes : Bytes) : List Token :=
  (ofSource (Source.ofBytes e bytes)).drain.items

/-- A scan of a content finds and reports what the pieces of its tokens say. -/
theorem rest_ofBytes (e : Encoding) (bytes : Bytes) (report : Option Report) :
    ∃ last segments, Accounts last (tokensOfBytes e bytes) segments ∧
      (Scan.ofSource (Source.ofBytes e bytes) report).rest.1 = .ok (layoutsOf segments) ∧
      (Scan.ofSource (Source.ofBytes e bytes) report).rest.2.report = notedIn report segments := by
  have hcalm : (ofSource (Source.ofBytes e bytes)).Calm := Source.fault?_ofBytes e bytes
  obtain ⟨segments, haccounts, hrest⟩ :=
    Scan.rest_accounts (Scan.ofSource (Source.ofBytes e bytes) report) hcalm rfl
  rw [tokensOfBytes, (drain_of_calm _ hcalm).1]
  exact ⟨_, segments, haccounts, hrest⟩

/-- Nothing is skipped in a content exactly if its tokens are clean. -/
theorem Accounts.skipsOf_eq_nil_iff {last : Nat} {ts : List Token} {segments : List Segment}
    (h : Accounts last ts segments) : skipsOf segments = [] ↔ ∃ layouts, Clean ts layouts := by
  constructor
  · intro hskips
    exact ⟨_, h.clean hskips⟩
  · rintro ⟨layouts, hclean⟩
    obtain ⟨segments', haccounts, -, hskips⟩ := hclean.accounts last
    rw [h.unique haccounts, hskips]

/-! ## Scans to the end -/

/-- A scan of a file never fails. -/
theorem exists_rest_of_openScan {d : Disk} {p : Path} {encoding : String}
    {report : Option Report} {o : OpenedScan} (h : openScan d p encoding report = .ok o) :
    ∃ layouts, o.scan.rest.1 = .ok layouts := by
  rcases openScan_cases h with ⟨errno, -, rfl⟩ | ⟨bytes, e, -, -, rfl⟩
  · exact ⟨[], by rw [Scan.rest_of_ended (Scan.next_of_finished rfl)]⟩
  · obtain ⟨last, segments, -, hlayouts, -⟩ :=
      rest_ofBytes e bytes (report.map fun r => r.about p)
    exact ⟨_, hlayouts⟩

/-- What a scan of a file in some encoding finds, and what it reports. -/
def Scanned (d : Disk) (encoding : String) (p : Path) (layouts : List Layout) (report : Report) :
    Prop :=
  ∃ o, openScan d p encoding (some {}) = .ok o ∧ o.scan.rest.1 = .ok layouts ∧
    o.scan.rest.2.report = some report

/-- A file whose content can be read and has clean tokens. -/
def CleanFile (d : Disk) (e : Encoding) (p : Path) : Prop :=
  ∃ bytes layouts, d.read p = .ok bytes ∧ Clean (tokensOfBytes e bytes) layouts

/-- What a scan of a file reports: that it cannot be read, or what was skipped in it. -/
theorem report_of_openScan {d : Disk} {p : Path} {encoding : String} {o : OpenedScan}
    (h : openScan d p encoding (some {}) = .ok o) :
    ∃ report : Report, o.scan.rest.2.report = some report ∧ report.file = some p ∧
      ((∃ errno, d.read p = .error errno ∧ report.passed = false) ∨
        ∃ bytes e, d.read p = .ok bytes ∧ Encoding.ofName encoding = .ok e ∧
          (report.passed = true ↔ ∃ layouts, Clean (tokensOfBytes e bytes) layouts)) := by
  rcases openScan_cases h with ⟨errno, hread, rfl⟩ | ⟨bytes, e, hread, hencoding, rfl⟩
  · refine ⟨(({} : Report).about p).error
      ⟨0, Diagnostic.sourceUnavailable, unavailable p errno⟩, ?_, rfl, .inl ⟨errno, hread, rfl⟩⟩
    rw [Scan.rest_of_ended (Scan.next_of_finished rfl)]
    rfl
  · obtain ⟨last, segments, haccounts, -, hreport⟩ :=
      rest_ofBytes e bytes (some (({} : Report).about p))
    refine ⟨(({} : Report).about p).warn ((skipsOf segments).map Skip.diagnostic), hreport, rfl,
      .inr ⟨bytes, e, hread, hencoding, ?_⟩⟩
    rw [Report.passed_iff, ← haccounts.skipsOf_eq_nil_iff]
    simp [Report.warn, Report.about]

namespace Scanned

variable {d : Disk} {encoding : String} {p : Path} {layouts : List Layout} {report : Report}

/-- There is one result of a scan. -/
theorem unique {layouts' : List Layout} {report' : Report} (h : Scanned d encoding p layouts report)
    (h' : Scanned d encoding p layouts' report') : layouts = layouts' ∧ report = report' := by
  obtain ⟨o, hopen, hlayouts, hreport⟩ := h
  obtain ⟨o', hopen', hlayouts', hreport'⟩ := h'
  rw [hopen] at hopen'
  cases hopen'
  rw [hlayouts] at hlayouts'
  rw [hreport] at hreport'
  cases hlayouts'
  cases hreport'
  exact ⟨rfl, rfl⟩

/-- The report is about the file. -/
theorem file_eq (h : Scanned d encoding p layouts report) : report.file = some p := by
  obtain ⟨o, hopen, -, hreport⟩ := h
  obtain ⟨report', hreport', hfile, -⟩ := report_of_openScan hopen
  rw [hreport] at hreport'
  cases hreport'
  exact hfile

/-- The report passes exactly if the file can be read and its tokens are clean. -/
theorem passed_iff {e : Encoding} (h : Scanned d encoding p layouts report)
    (hencoding : Encoding.ofName encoding = .ok e) : report.passed = true ↔ CleanFile d e p := by
  obtain ⟨o, hopen, -, hreport⟩ := h
  obtain ⟨report', hreport', -, hpassed⟩ := report_of_openScan hopen
  rw [hreport] at hreport'
  cases hreport'
  rcases hpassed with ⟨errno, hread, hfailed⟩ | ⟨bytes, e', hread, hencoding', hpassed⟩
  · simp [CleanFile, hread, hfailed]
  · rw [hencoding] at hencoding'
    cases hencoding'
    simp [CleanFile, hread, hpassed]

end Scanned

end StructScan
