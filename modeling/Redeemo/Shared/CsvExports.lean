import Redeemo.Lib.Csv
import Redeemo.Redemption.RegisterRows

/-! The two CSV exports: the redemption register and the redemption activity of the insights.

    A cell that starts like a formula gets an apostrophe, and every cell is quoted after that. -/

namespace Redeemo.CsvExports
open Redemptions

/-! ### Texts -/

def voucherTypeText : VoucherType → String
  | .BOGO => "BOGO"
  | .SPEND_AND_SAVE => "SPEND_AND_SAVE"
  | .DISCOUNT_FIXED => "DISCOUNT_FIXED"
  | .DISCOUNT_PERCENT => "DISCOUNT_PERCENT"
  | .FREEBIE => "FREEBIE"
  | .PACKAGE_DEAL => "PACKAGE_DEAL"
  | .TIME_LIMITED => "TIME_LIMITED"
  | .REUSABLE => "REUSABLE"

def validationMethodText : ValidationMethod → String
  | .PIN => "PIN"
  | .QR_SCAN => "QR_SCAN"
  | .MANUAL => "MANUAL"

def redemptionStatusText : RedemptionStatus → String
  | .AWAITING_VALIDATION => "AWAITING_VALIDATION"
  | .VALIDATED => "VALIDATED"

/-- `toFixed(2)`: the nearest number of hundredths, the larger of two, behind the sign. -/
def toFixed2 (x : ℚ) : String :=
  let n := ((if x < 0 then -x else x) * 100 + 1 / 2).floor.toNat
  (if x < 0 then "-" else "") ++ toString (n / 100) ++ "." ++ (if n % 100 < 10 then "0" else "") ++ toString (n % 100)

/-! ### Cells -/

/-- `/^[=+\-@\t\r]/`. -/
def isTrigger (s : String) : Bool :=
  s.toList.head?.any fun c => c = '=' || c = '+' || c = '-' || c = '@' || c = '\t' || c = '\r'

def csvCell (v : Option String) : String :=
  let s := v.getD ""
  let s := if s ≠ "" ∧ isTrigger s = true then "'" ++ s else s
  "\"" ++ String.ofList (s.toList.flatMap fun c => if c = '"' then ['"', '"'] else [c]) ++ "\""

def csvLine (cells : List (Option String)) : String := String.intercalate "," (cells.map csvCell)

/-! ### The redemption register -/

def EXPORT_CAP : ℕ := 50000

def REDEMPTIONS_HEADER : List String :=
  ["Redemption code", "Voucher", "Type", "Branch", "Customer", "Redeemed at", "Status", "Validated at", "Method",
    "Saving (GBP)"]

def redemptionCells (r : MerchantRedemptionRow) : List String :=
  [r.redemptionCode, r.voucher.title, voucherTypeText r.voucher.type, r.branch.name, r.customerName, r.redeemedAt,
    redemptionStatusText r.status, r.validatedAt.getD "", (r.validationMethod.map validationMethodText).getD "",
    toFixed2 r.estimatedSaving]

def REDEMPTIONS_NOTICE : String :=
  "Export truncated at " ++ toString EXPORT_CAP ++ " rows. Narrow the filters for a complete export."

def redemptionsToCsv (rows : List MerchantRedemptionRow) (truncated : Bool) : String :=
  let lines := csvLine (REDEMPTIONS_HEADER.map some) :: rows.map fun r => csvLine ((redemptionCells r).map some)
  String.intercalate "\r\n" (if truncated = true then lines ++ [csvCell (some REDEMPTIONS_NOTICE)] else lines)

/-! ### The redemption activity -/

def INSIGHTS_EXPORT_CAP : ℕ := 50000

/-- A row as it comes from the database, with its texts. -/
structure InsightsExportRow where
  redeemedDate : String
  redeemedTime : String
  voucherTitle : String
  branchName : String
  type7 : String
  estimatedSaving : ℚ
  status : String
  validationMethod : Option String

def INSIGHTS_HEADER : List String :=
  ["Redeemed date", "Redeemed time", "Voucher", "Branch", "Type", "Estimated value (GBP)", "Status", "Method"]

def insightsCells (r : InsightsExportRow) : List String :=
  [r.redeemedDate, r.redeemedTime, r.voucherTitle, r.branchName, r.type7, toFixed2 r.estimatedSaving, r.status,
    r.validationMethod.getD ""]

def INSIGHTS_NOTICE : String :=
  "Export truncated at " ++ toString INSIGHTS_EXPORT_CAP ++ " rows. Narrow the filters for a complete export."

def insightsRowsToCsv (rows : List InsightsExportRow) (truncated : Bool) : String :=
  let lines := csvLine (INSIGHTS_HEADER.map some) :: rows.map fun r => csvLine ((insightsCells r).map some)
  String.intercalate "\r\n" (if truncated = true then lines ++ [csvCell (some INSIGHTS_NOTICE)] else lines)

/-! ### What a reader gets -/

/-- The value, behind an apostrophe exactly if it starts like a formula. -/
def shielded (s : String) : Csv.Field := if isTrigger s = true then '\'' :: s.toList else s.toList

theorem not_isTrigger_shielded (s : String) : isTrigger (String.ofList (shielded s)) = false := by
  rw [shielded, isTrigger, String.toList_ofList]
  split_ifs with h
  · rfl
  · exact Bool.eq_false_iff.mpr h

theorem toList_csvCell (s : String) : (csvCell (some s)).toList = Csv.quote (shielded s) := by
  have hempty : (s ≠ "" ∧ isTrigger s = true) ↔ isTrigger s = true := by
    refine and_iff_right_of_imp ?_
    rintro h rfl
    cases h
  have hs : (if s ≠ "" ∧ isTrigger s = true then "'" ++ s else s).toList = shielded s := by
    rw [shielded, if_congr hempty rfl rfl]
    split_ifs with h
    · rw [String.toList_append]
      rfl
    · rfl
  have hquote : "\"".toList = ['"'] := rfl
  simp only [csvCell, Option.getD_some, String.toList_append, String.toList_ofList, hs, hquote]
  rw [Csv.quote, List.singleton_append]

theorem toList_csvLine (cells : List String) :
    (csvLine (cells.map some)).toList = Csv.writeRecord (cells.map shielded) := by
  have hcells : ((cells.map some).map csvCell).map String.toList = (cells.map shielded).map Csv.quote := by
    simp only [List.map_map]
    exact List.map_congr_left fun s _ => toList_csvCell s
  have hcomma : ",".toList = [','] := rfl
  rw [csvLine, String.toList_intercalate, hcells, hcomma, Csv.writeRecord]

/-- The records of an export: the header, the rows in order, and the notice if there are more. -/
def exported (header : List String) (rows : List (List String)) (notice : String) (truncated : Bool) : List Csv.Record :=
  header.map shielded :: rows.map (fun cells => cells.map shielded) ++
    if truncated = true then [[shielded notice]] else []

theorem toList_export (header : List String) (rows : List (List String)) (notice : String) (truncated : Bool) :
    (String.intercalate "\r\n" (if truncated = true then
        (csvLine (header.map some) :: rows.map fun cells => csvLine (cells.map some)) ++ [csvCell (some notice)]
      else csvLine (header.map some) :: rows.map fun cells => csvLine (cells.map some))).toList =
      Csv.write (exported header rows notice truncated) := by
  have hrows : (rows.map fun cells => csvLine (cells.map some)).map String.toList =
      (rows.map fun cells => cells.map shielded).map Csv.writeRecord := by
    rw [List.map_map, List.map_map]
    exact List.map_congr_left fun cells _ => toList_csvLine cells
  have hnotice : Csv.writeRecord [shielded notice] = (csvCell (some notice)).toList := by
    rw [toList_csvCell, Csv.writeRecord_singleton]
  have hbreak : "\r\n".toList = ['\r', '\n'] := rfl
  rw [String.toList_intercalate, Csv.write, exported, hbreak]
  refine congrArg _ ?_
  split_ifs with h
  · rw [List.map_append, List.map_append, List.map_cons, List.map_cons, hrows, toList_csvLine, List.map_cons,
      List.map_nil, List.map_cons, List.map_nil, hnotice]
  · rw [List.append_nil, List.map_cons, List.map_cons, hrows, toList_csvLine]

theorem read_exported {header : List String} {rows : List (List String)} {notice : String} {truncated : Bool}
    (hheader : header ≠ []) (hrows : ∀ cells ∈ rows, cells ≠ []) :
    Csv.read (Csv.write (exported header rows notice truncated)) = some (exported header rows notice truncated) := by
  refine Csv.read_write fun r hr => ?_
  rcases List.mem_append.mp hr with hr | hr
  · rcases List.mem_cons.mp hr with rfl | hr
    · rwa [ne_eq, List.map_eq_nil_iff]
    · obtain ⟨cells, hcells, rfl⟩ := List.mem_map.mp hr
      rw [ne_eq, List.map_eq_nil_iff]
      exact hrows cells hcells
  · split_ifs at hr
    · rw [List.mem_singleton.mp hr]
      exact List.cons_ne_nil _ _
    · exact absurd hr List.not_mem_nil

theorem shielded_of_mem_exported {header : List String} {rows : List (List String)} {notice : String}
    {truncated : Bool} {r : Csv.Record} (hr : r ∈ exported header rows notice truncated) {f : Csv.Field} (hf : f ∈ r) :
    ∃ s, f = shielded s := by
  have hmap : ∀ cells : List String, f ∈ cells.map shielded → ∃ s, f = shielded s := by
    intro cells hf
    obtain ⟨s, -, rfl⟩ := List.mem_map.mp hf
    exact ⟨s, rfl⟩
  rcases List.mem_append.mp hr with hr | hr
  · rcases List.mem_cons.mp hr with rfl | hr
    · exact hmap _ hf
    · obtain ⟨cells, -, rfl⟩ := List.mem_map.mp hr
      exact hmap _ hf
  · split_ifs at hr
    · rw [List.mem_singleton.mp hr, List.mem_singleton] at hf
      exact ⟨notice, hf⟩
    · exact absurd hr List.not_mem_nil

/-- What a reader gets of an export: the header as it is, the rows, and the notice if there are more; no field starts
    like a formula, and every row has a field for each of the header. -/
structure ReadsBack (csv : String) (header : List String) (rows : List (List String)) (notice : String)
    (truncated : Bool) : Prop where
  records : Csv.read csv.toList = some (header.map String.toList :: rows.map (fun cells => cells.map shielded) ++
    if truncated = true then [[notice.toList]] else [])
  width : ∀ cells ∈ rows, cells.length = header.length
  harmless : ∀ records, Csv.read csv.toList = some records → ∀ r ∈ records, ∀ f ∈ r, isTrigger (String.ofList f) = false

/-- An export reads back if its own texts do not start like a formula. -/
theorem readsBack_export {header : List String} {rows : List (List String)} {notice : String} {truncated : Bool}
    (hheader : header ≠ []) (hharmless : ∀ s ∈ header, isTrigger s = false) (hnotice : isTrigger notice = false)
    (hwidth : ∀ cells ∈ rows, cells.length = header.length) {csv : String}
    (hcsv : csv.toList = Csv.write (exported header rows notice truncated)) :
    ReadsBack csv header rows notice truncated := by
  have hplain : ∀ s : String, isTrigger s = false → shielded s = s.toList := by
    intro s hs
    rw [shielded, if_neg (by rw [hs]; exact Bool.false_ne_true)]
  have hrows : ∀ cells ∈ rows, cells ≠ [] := by
    intro cells hcells hnil
    have hlength := hwidth cells hcells
    rw [hnil] at hlength
    exact hheader (List.length_eq_zero_iff.mp hlength.symm)
  have hread : Csv.read (Csv.write (exported header rows notice truncated)) =
    some (exported header rows notice truncated) := read_exported hheader hrows
  rw [← hcsv] at hread
  refine ⟨?_, hwidth, ?_⟩
  · rw [hread, exported, List.map_congr_left fun s hs => hplain s (hharmless s hs), hplain notice hnotice]
  · intro records h r hr f hf
    cases hread.symm.trans h
    obtain ⟨s, rfl⟩ := shielded_of_mem_exported hr hf
    exact not_isTrigger_shielded s

/-- Both exports read back, whatever the texts of their rows. -/
theorem exports_read_back :
    (∀ rows truncated, ReadsBack (redemptionsToCsv rows truncated) REDEMPTIONS_HEADER (rows.map redemptionCells)
      REDEMPTIONS_NOTICE truncated) ∧
    ∀ rows truncated, ReadsBack (insightsRowsToCsv rows truncated) INSIGHTS_HEADER (rows.map insightsCells)
      INSIGHTS_NOTICE truncated := by
  constructor
  · intro rows truncated
    refine readsBack_export (List.cons_ne_nil _ _) (by decide) (by decide) ?_ ?_
    · intro cells hcells
      obtain ⟨r, -, rfl⟩ := List.mem_map.mp hcells
      rfl
    · rw [← toList_export, List.map_map]
      rfl
  · intro rows truncated
    refine readsBack_export (List.cons_ne_nil _ _) (by decide) (by decide) ?_ ?_
    · intro cells hcells
      obtain ⟨r, -, rfl⟩ := List.mem_map.mp hcells
      rfl
    · rw [← toList_export, List.map_map]
      rfl

end Redeemo.CsvExports
