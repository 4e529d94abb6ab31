import SessionBridge.Host.LogFile
import SessionBridge.Proofs.Calendar.Stamp

/-! The names of log files in the order of time. The stem and the ending are the same for all starts of one
daemon, so two names differ where their stamps do, and a listing by name is a listing by time as long as the
years have four digits. -/
namespace SessionBridge.LogFile

open DateTime (HasFourDigits Tells)

variable {stem : String} {d d' : DateTime} {seconds seconds' : Int}

theorem toList_name (stem : String) (d : DateTime) :
    (name stem d).toList = stem.toList ++ (d.stamp.toList ++ ".txt".toList) := by
  unfold name
  rw [String.toList_append, String.toList_append, List.append_assoc]

theorem name_eq_iff : name stem d = name stem d' ↔ d.stamp = d'.stamp := by
  constructor
  · intro h
    have hchars := congrArg String.toList h
    rw [toList_name, toList_name] at hchars
    exact String.toList_inj.mp (List.append_cancel_right (List.append_cancel_left hchars))
  · intro h
    unfold name
    rw [h]

theorem name_lt (hd : d.Tells seconds) (hd' : d'.Tells seconds') (hyear : HasFourDigits d.date.year)
    (hyear' : HasFourDigits d'.date.year) (h : seconds < seconds') : name stem d < name stem d' := by
  have hstamp := hd.isStamp hyear
  have hstamp' := hd'.isStamp hyear'
  have hlt := hstamp.lt hstamp' hyear (hd.before hd' h)
  rw [String.lt_iff, toList_name, toList_name]
  exact List.append_left_lt
    (Text.lt_append_of_lt (hstamp.length.trans hstamp'.length.symm) hlt _ _)

/-- The log files of one stem, for starts at any two moments outside leap seconds. A name is the stem, the
stamp of the date and time of the start and the ending; date and time are those of the calendar, counted off
from the start of 1970. Names are the same exactly for starts in the same second. While the years have four
digits the stamp has the form yyyy-mm-dd_hh_mm_ss, which is nineteen characters and no separator of paths, and
the name of an earlier second is the smaller one. -/
theorem log_names_follow_start_times (stem : String) {t t' : Instant} {d d' : DateTime}
    (ht : DateTime.ofInstant? t = some d) (ht' : DateTime.ofInstant? t' = some d')
    (hnanos : t.nanos < 1000000000) (hnanos' : t'.nanos < 1000000000) :
    d.Tells t.seconds ∧
    (name stem d = name stem d' ↔ t.seconds = t'.seconds) ∧
    (HasFourDigits d.date.year → HasFourDigits d'.date.year → t.seconds < t'.seconds →
      name stem d < name stem d') ∧
    ∃ stamp, name stem d = stem ++ stamp ++ ".txt" ∧
      (HasFourDigits d.date.year → d.IsStamp stamp.toList ∧ stamp.toList.length = 19 ∧
        '/' ∉ stamp.toList ∧ '\\' ∉ stamp.toList) := by
  have htells := DateTime.tells_of_ofInstant? hnanos ht
  have htells' := DateTime.tells_of_ofInstant? hnanos' ht'
  refine ⟨htells, ?_, name_lt htells htells', d.stamp, rfl, ?_⟩
  · rw [name_eq_iff]
    constructor
    · intro hstamp
      obtain rfl := htells.eq_of_stamp_eq htells' hstamp
      exact htells.unique htells'
    · intro hseconds
      rw [hseconds] at htells
      rw [htells.eq htells']
  · intro hyear
    have hstamp := htells.isStamp hyear
    refine ⟨hstamp, hstamp.length, ?_, ?_⟩
    · intro hmem
      exact absurd (hstamp.chars _ hmem) (by decide)
    · intro hmem
      exact absurd (hstamp.chars _ hmem) (by decide)

theorem log_names_follow_start_times_leapDay :
    let t : Instant := ⟨951782399, 999999999⟩
    let t' : Instant := ⟨951782400, 0⟩
    let d : DateTime := ⟨⟨2000, 2, 28⟩, 23, 59, 59⟩
    let d' : DateTime := ⟨⟨2000, 2, 29⟩, 0, 0, 0⟩
    DateTime.ofInstant? t = some d ∧ DateTime.ofInstant? t' = some d' ∧ t.nanos < 1000000000 ∧
      t'.nanos < 1000000000 ∧ HasFourDigits d.date.year ∧ HasFourDigits d'.date.year ∧
      name "DaemonLog_" d = "DaemonLog_2000-02-28_23_59_59.txt" ∧
      name "DaemonLog_" d < name "DaemonLog_" d' := by
  intro t t' d d'
  have ht : DateTime.ofInstant? t = some d := by decide
  have ht' : DateTime.ofInstant? t' = some d' := by decide
  have hyear : HasFourDigits d.date.year := ⟨by decide, by decide⟩
  have hyear' : HasFourDigits d'.date.year := ⟨by decide, by decide⟩
  obtain ⟨-, -, horder, -⟩ :=
    log_names_follow_start_times "DaemonLog_" ht ht' (by decide) (by decide)
  exact ⟨ht, ht', by decide, by decide, hyear, hyear', by decide +kernel, horder hyear hyear' (by decide)⟩

end SessionBridge.LogFile
