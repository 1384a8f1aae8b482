import Conductor.Proofs.JsonReading
import Conductor.Proofs.SuiteAnswers
import Conductor.Proofs.Utf8Reading

/-! Which payloads are answered. One that is within the limits of its reader is, whatever else
stands in it; a document that is written in UTF-8 is answered exactly if its numbers and its nesting
are within them. A request for a check is answered exactly if its payload is.
-/

namespace Conductor

-----------------------------------------------------------------------------------------
-- Bytes of documents
-----------------------------------------------------------------------------------------

namespace Transport

/-- Bytes that begin in ASCII and have no zero among them are in UTF-8. -/
theorem formOf_ascii {bytes : Bytes} (ascii : ∀ first ∈ bytes.head?, first.toNat < 0x80)
    (nonzero : ∀ byte ∈ bytes, byte ≠ 0)
    : formOf bytes = .utf8 false := by
  have mark {first : UInt8} (other : ¬(first.toNat < 0x80 ∧ first ≠ 0)) (rest : Bytes)
    : (first :: rest).isPrefixOf bytes = false := by
    cases bytes with
    | nil => rfl
    | cons a bytes =>
        have here : first ≠ a := by
          rintro rfl
          exact other ⟨ascii first rfl, nonzero first List.mem_cons_self⟩
        rw [List.isPrefixOf, beq_false_of_ne here, Bool.false_and]
  have zeros : formOfZeros bytes = .utf8 false := by
    fun_cases formOfZeros bytes with
    | case1 | case2 | case6 => exact absurd rfl (nonzero 0 List.mem_cons_self)
    | case3 | case4 | case7 =>
        exact absurd rfl (nonzero 0 (List.mem_cons_of_mem _ List.mem_cons_self))
    | case5 | case8 | case9 => rfl
  unfold formOf
  rw [mark (by decide), mark (by decide), mark (by decide), mark (by decide), mark (by decide),
    zeros]
  rfl

end Transport

namespace Utf8

theorem codeBytes_ne_zero {code : Nat} (nonzero : code ≠ 0) {byte : UInt8}
    (member : byte ∈ codeBytes code)
    : byte ≠ 0 := by
  have other {n : Nat} (positive : 0 < n) (small : n < 256) : UInt8.ofNat n ≠ 0 := by
    intro same
    have value := congrArg UInt8.toNat same
    rw [UInt8.toNat_ofNat', Nat.mod_eq_of_lt small] at value
    exact Nat.ne_of_gt positive value
  unfold codeBytes at member
  split at member
  · rw [List.mem_singleton.mp member]
    exact other (by omega) (by omega)
  split at member
  · simp only [List.mem_cons, List.not_mem_nil, or_false] at member
    rcases member with rfl | rfl <;> exact other (by omega) (by omega)
  split at member
  · simp only [List.mem_cons, List.not_mem_nil, or_false] at member
    rcases member with rfl | rfl | rfl <;> exact other (by omega) (by omega)
  · simp only [List.mem_cons, List.not_mem_nil, or_false] at member
    rcases member with rfl | rfl | rfl | rfl <;> exact other (by omega) (by omega)

end Utf8

namespace Json

/-- Encoded text that begins in ASCII and has no character zero is read as it is. -/
theorem readTableBytes_encode (limit : Nat) {s : String}
    (ascii : ∀ c ∈ s.toList.head?, c.toNat < 0x80)
    (nonzero : ∀ c ∈ s.toList, c ≠ '\x00')
    : readTableBytes limit (Utf8.encode s) = readTable limit (Text.ofString s) := by
  have code {c : Char} (member : c ∈ s.toList) : c.toNat ≠ 0 := by
    intro zero
    exact nonzero c member (Char.toNat_inj.mp zero)
  have form : Transport.formOf (Utf8.encode s) = .utf8 false := by
    rw [Utf8.encode_eq_flatMap]
    apply Transport.formOf_ascii
    · cases chars : s.toList with
      | nil => nofun
      | cons c rest =>
          have small : c.toNat < 0x80 := ascii c (by rw [chars]; rfl)
          have own : Utf8.codeBytes c.toNat = [.ofNat c.toNat] := if_pos (by omega)
          rw [List.flatMap_cons, Utf8.utf8EncodeChar_eq, own]
          rintro _ ⟨⟩
          rw [UInt8.toNat_ofNat', Nat.mod_eq_of_lt (by omega)]
          exact small
    · intro byte member
      obtain ⟨c, among, within⟩ := List.mem_flatMap.mp member
      exact Utf8.codeBytes_ne_zero (code among) within
  have decoded : Transport.decode? (Utf8.encode s) = some (Text.ofString s) := by
    rw [Transport.decode?, form]
    simp only [Bool.false_eq_true, if_false, Utf8.decodeUnits_encode]
    rfl
  rw [readTableBytes, decoded]

-----------------------------------------------------------------------------------------
-- Documents
-----------------------------------------------------------------------------------------

/-- The character zero stands nowhere in a text. -/
def Plain (text : Text) : Prop :=
  ∀ unit ∈ text, unit ≠ .char '\x00'

theorem plain_append {first second : Text} (before : Plain first) (behind : Plain second)
    : Plain (first ++ second) :=
  fun unit member => (List.mem_append.mp member).elim (before unit) (behind unit)

theorem plain_cons {c : Char} {rest : Text} (behind : Plain rest)
    (nonzero : c ≠ '\x00' := by decide)
    : Plain (.char c :: rest) :=
  List.forall_mem_cons.mpr ⟨fun same => nonzero (TextUnit.char.inj same), behind⟩

theorem plain_nil : Plain [] := nofun

theorem plain_map {chars : List Char} (nonzero : '\x00' ∉ chars) : Plain (chars.map .char) := by
  rintro unit member rfl
  obtain ⟨c, among, same⟩ := List.mem_map.mp member
  exact nonzero (TextUnit.char.inj same ▸ among)

theorem IsGap.plain {gap : Text} (blanks : IsGap gap) : Plain gap := by
  intro unit member
  obtain ⟨c, rfl, blank⟩ := blanks unit member
  rintro ⟨⟩
  cases blank

theorem plain_padded {gap text : Text} (blanks : IsGap gap) (plain : Plain text)
    : Plain (padded gap text) :=
  plain_append blanks.plain (plain_append plain blanks.plain)

theorem plain_writtenUnit (unit : TextUnit) : Plain (writtenUnit unit) := by
  unfold writtenUnit
  split
  · rename_i quoted
    rcases quoted with rfl | rfl <;> exact plain_cons (plain_cons plain_nil)
  split
  · rename_i control
    have hex : ∀ d < 16, d.digitChar ≠ '\x00' := by decide
    refine plain_map fun member => ?_
    simp only [List.mem_cons, List.not_mem_nil, or_false] at member
    rcases member with fixed | fixed | fixed | fixed | high | low
    case inr.inr.inr.inr.inl => exact hex _ (by omega) high.symm
    case inr.inr.inr.inr.inr => exact hex _ (by omega) low.symm
    all_goals exact absurd fixed (by decide)
  · rename_i control
    rintro other member rfl
    rw [← List.mem_singleton.mp member] at control
    exact control (by decide)

theorem plain_written (s : Text) : Plain (written s) := by
  refine plain_cons (plain_append (fun unit member => ?_) (plain_cons plain_nil))
  obtain ⟨source, _, within⟩ := List.mem_flatMap.mp member
  exact plain_writtenUnit source unit within

theorem Numeral.isNumeric_chars (n : Numeral) {c : Char} (member : c ∈ n.chars) : isNumeric c := by
  have sign {negative : Bool} (within : c ∈ if negative then ['-'] else []) : isNumeric c := by
    cases negative with
    | false => cases within
    | true =>
        rw [List.mem_singleton.mp within]
        decide
  simp only [chars, List.mem_append] at member
  rcases member with (whole | fraction) | power
  · rcases List.mem_append.mp whole with within | within
    · exact sign within
    · exact isNumeric_of_digit (n.whole_digits c within)
  · unfold fractionChars at fraction
    split at fraction
    · cases fraction
    · rcases List.mem_cons.mp fraction with rfl | within
      · decide
      · exact isNumeric_of_digit (n.fraction_digits c within)
  · unfold powerChars at power
    split at power
    · cases power
    · rename_i negative digits same
      rcases List.mem_append.mp power with within | within
      · rcases List.mem_cons.mp within with rfl | within
        · decide
        · exact sign within
      · exact isNumeric_of_digit ((n.power_digits negative digits same).2 c within)

theorem Numeral.plain (n : Numeral) : Plain (n.chars.map .char) := by
  refine plain_map fun member => ?_
  cases n.isNumeric_chars member

namespace Document

mutual

/-- No character zero stands in a document as it is written. -/
theorem plain_core {gap : Text} (blanks : IsGap gap) (document : Document)
    : Plain (document.core gap) := by
  cases document with
  | null =>
      rw [core]
      exact plain_map (by decide)
  | bool b =>
      cases b with
      | true =>
          rw [core]
          exact plain_map (by decide)
      | false =>
          rw [core]
          exact plain_map (by decide)
  | number n =>
      rw [core]
      exact n.plain
  | str s =>
      rw [core]
      exact plain_written s
  | list items =>
      cases items with
      | nil =>
          rw [core]
          exact plain_cons (plain_append blanks.plain (plain_cons plain_nil))
      | cons item rest =>
          rw [core]
          exact plain_cons (plain_append (plain_padded blanks (plain_core blanks item))
            (plain_moreItems blanks rest))
  | table entries =>
      cases entries with
      | nil =>
          rw [core]
          exact plain_cons (plain_append blanks.plain (plain_cons plain_nil))
      | cons entry rest =>
          rw [core]
          exact plain_cons (plain_append (plain_padded blanks (plain_written entry.1))
            (plain_cons (plain_append (plain_padded blanks (plain_core blanks entry.2))
              (plain_moreEntries blanks rest))))

theorem plain_moreItems {gap : Text} (blanks : IsGap gap) (items : List Document)
    : Plain (moreItems gap items) := by
  cases items with
  | nil =>
      rw [moreItems]
      exact plain_cons plain_nil
  | cons item rest =>
      rw [moreItems]
      exact plain_cons (plain_append (plain_padded blanks (plain_core blanks item))
        (plain_moreItems blanks rest))

theorem plain_moreEntries {gap : Text} (blanks : IsGap gap) (entries : List (Text × Document))
    : Plain (moreEntries gap entries) := by
  cases entries with
  | nil =>
      rw [moreEntries]
      exact plain_cons plain_nil
  | cons entry rest =>
      rw [moreEntries]
      exact plain_cons (plain_append (plain_padded blanks (plain_written entry.1))
        (plain_cons (plain_append (plain_padded blanks (plain_core blanks entry.2))
          (plain_moreEntries blanks rest))))

end

/-- A document begins with a blank, or with its own first character. -/
theorem text_head {gap : Text} (blanks : IsGap gap) (document : Document)
    : ∃ c rest, document.text gap = .char c :: rest ∧ c.toNat < 0x80 := by
  cases gap with
  | nil =>
      obtain ⟨c, rest, same, _, _, ascii⟩ := core_head [] document
      exact ⟨c, rest, by rw [text, padded, List.nil_append, List.append_nil, same], ascii⟩
  | cons unit rest =>
      obtain ⟨c, rfl, blank⟩ := blanks unit List.mem_cons_self
      refine ⟨c, _, rfl, ?_⟩
      simp only [isBlank, Bool.or_eq_true, beq_iff_eq] at blank
      rcases blank with ((rfl | rfl) | rfl) | rfl <;> decide

/-- What is written of a document in UTF-8 is answered as the document is. -/
theorem readTableBytes_text (limit : Nat) {gap : Text} (blanks : IsGap gap) (document : Document)
    {s : String}
    (same : Text.ofString s = document.text gap)
    : readTableBytes limit (Utf8.encode s) = document.answer limit := by
  have plain : Plain (document.text gap) := plain_padded blanks (plain_core blanks document)
  have ascii : ∀ c ∈ s.toList.head?, c.toNat < 0x80 := by
    obtain ⟨c, rest, begins, ascii⟩ := text_head blanks document
    rw [begins] at same
    obtain ⟨d, more, chars, ⟨⟩, rfl⟩ := List.map_eq_cons_iff.mp same
    rw [chars]
    rintro _ ⟨⟩
    exact ascii
  have nonzero : ∀ c ∈ s.toList, c ≠ '\x00' := by
    rintro c member rfl
    exact plain _ (same ▸ List.mem_map_of_mem member) rfl
  rw [readTableBytes_encode limit ascii nonzero, same, readTable_text blanks]

end Document

end Json

-----------------------------------------------------------------------------------------
-- Requests
-----------------------------------------------------------------------------------------

namespace CheckRequest

variable {ε : Type} {services : Services ε} {event : Event} (project : Project) (state : ε)

/-- A request whose payload is not answered breaks off before anything else. -/
theorem runEvent_unread (factories : List (Factory ε)) {fault : Json.Fault}
    (unread : Json.readTableBytes services.platform.jsonDepth event.payload = .error fault)
    : (runEvent services factories event project).trace state
      = ⟨.error (.ofJson fault), state, []⟩ := by
  have unnamed : nameOf services.platform event.payload = .error (.ofJson fault) := by
    rw [nameOf, unread]
  rw [runEvent, unnamed]
  exact Attempt.trace_bind_error (Attempt.trace_liftExcept _ state)

/-- A request whose payload is answered comes to a result, whatever becomes of jobs and reports, if
the address of the build is shown.
-/
theorem runEvent_read (executing : services.executor.Uncancelled)
    (reporting : services.reporter.Uncancelled) {detailsUrl : String}
    (shown : services.detailsUrl event.buildId = .ok detailsUrl)
    {table? : Option (Table Text)}
    (read : Json.readTableBytes services.platform.jsonDepth event.payload = .ok table?)
    : ∃ result,
        ((runEvent services (Suite.factories services) event project).trace state).value
        = .ok result := by
  obtain ⟨name?, named⟩ : ∃ name?, nameOf services.platform event.payload = .ok name? := by
    unfold nameOf
    rw [read]
    cases table? <;> exact ⟨_, rfl⟩
  rw [runEvent, named, Attempt.trace_bind_ok (Attempt.trace_liftExcept _ state)]
  cases name? with
  | none => exact ⟨_, rfl⟩
  | some name => exact run_value event project state executing reporting shown name

end CheckRequest

namespace Json

/-- Only bytes that decode are at fault, and then the text that they decode to is. -/
theorem readTableBytes_fault {limit : Nat} {bytes : Bytes} {fault : Fault}
    (broken : readTableBytes limit bytes = .error fault)
    : ∃ text, Transport.decode? bytes = some text ∧ readTable limit text = .error fault := by
  unfold readTableBytes at broken
  cases decoded : Transport.decode? bytes with
  | none =>
      rw [decoded] at broken
      cases broken
  | some text =>
      rw [decoded] at broken
      exact ⟨text, rfl, broken⟩

/-- Payloads are answered within the limits of the platform. Whatever text has no run of digits that
is too long, and at no place too many open brackets, is answered, and so are bytes that decode to
such a text or to none; where a payload is not answered, some part of it breaks the limit that the
fault names. A document is answered, in text and in bytes, exactly if it is modest, and then with
the table that it says. A request for a check comes to a result exactly if its payload is answered,
whatever becomes of jobs and reports, and otherwise breaks off with the same fault and has done
nothing.
-/
theorem answers_within_limits {ε : Type} {services : Services ε}
    (executing : services.executor.Uncancelled) (reporting : services.reporter.Uncancelled)
    {event : Event} {detailsUrl : String}
    (shown : services.detailsUrl event.buildId = .ok detailsUrl) (project : Project)
    (state : ε)
    : let limit := services.platform.jsonDepth
      let requested :=
        (CheckRequest.runEvent services (Suite.factories services) event project).trace state
      (∀ text, WithinLimits limit text → ∃ table?, readTable limit text = .ok table?)
      ∧ (∀ bytes,
          (∀ text, Transport.decode? bytes = some text → WithinLimits limit text)
          → ∃ table?, readTableBytes limit bytes = .ok table?)
      ∧ (∀ text fault,
          readTable limit text = .error fault
          → ∃ part, part <+: text ∧ fault.Breaks limit part)
      ∧ (∀ bytes fault,
          readTableBytes limit bytes = .error fault
          → ∃ text part,
              Transport.decode? bytes = some text ∧ part <+: text ∧ fault.Breaks limit part)
      ∧ (∀ gap (document : Document) table?,
          IsGap gap
          → (readTable limit (document.text gap) = .ok table?
              ↔ document.Modest limit ∧ document.value.table? = table?)
            ∧ ∀ s,
                Text.ofString s = document.text gap
                → (readTableBytes limit (Utf8.encode s) = .ok table?
                    ↔ document.Modest limit ∧ document.value.table? = table?))
      ∧ ((∃ result, requested.value = .ok result)
          ↔ ∃ table?, readTableBytes limit event.payload = .ok table?)
      ∧ ∀ fault,
          readTableBytes limit event.payload = .error fault
          → requested = ⟨.error (.ofJson fault), state, []⟩ := by
  intro limit requested
  refine ⟨fun _ => readTable_answers, ?bytes, fun _ _ => readTable_fault, ?faults, ?documents,
    ?requests, fun _ => CheckRequest.runEvent_unread project state _⟩
  case bytes =>
    intro bytes limits
    cases answered : readTableBytes limit bytes with
    | ok table? => exact ⟨table?, rfl⟩
    | error fault =>
        obtain ⟨text, decoded, broken⟩ := readTableBytes_fault answered
        obtain ⟨table?, answered⟩ := readTable_answers (limits text decoded)
        cases broken.symm.trans answered
  case faults =>
    intro bytes fault broken
    obtain ⟨text, decoded, broken⟩ := readTableBytes_fault broken
    obtain ⟨part, begins, breaks⟩ := readTable_fault broken
    exact ⟨text, part, decoded, begins, breaks⟩
  case documents =>
    intro gap document table? blanks
    refine ⟨?_, fun s same => ?_⟩
    · rw [Document.readTable_text blanks]
      exact Document.answer_eq_ok_iff
    · rw [Document.readTableBytes_text limit blanks document same]
      exact Document.answer_eq_ok_iff
  case requests =>
    constructor
    · rintro ⟨result, value⟩
      cases read : readTableBytes limit event.payload with
      | ok table? => exact ⟨table?, rfl⟩
      | error fault =>
          have unread : requested = ⟨.error (.ofJson fault), state, []⟩ :=
            CheckRequest.runEvent_unread project state (Suite.factories services) read
          rw [unread] at value
          cases value
    · rintro ⟨table?, read⟩
      exact CheckRequest.runEvent_read project state executing reporting shown read

/-- A number of nines, one more than told. -/
def ninesNumeral (count : Nat) : Numeral where
  negative := false
  whole := '9' :: List.replicate count '9'
  whole_digits := by
    intro c member
    rw [← List.replicate_succ] at member
    rw [List.eq_of_mem_replicate member]
    rfl
  whole_leads := .inr ⟨'9', _, rfl, by decide⟩
  fraction_digits := by
    intro c member
    cases member
  power_digits := by
    intro negative digits same
    cases same

/-- A table with such a number in it. -/
def ninesDocument (count : Nat) : Document :=
  .table [(Text.ofString "a", .number (ninesNumeral count))]

def ninesText (count : Nat) : String :=
  String.ofList (['\x7b', '"', 'a', '"', ':', '9'] ++ List.replicate count '9' ++ ['\x7d'])

theorem ofString_ninesText (count : Nat)
    : Text.ofString (ninesText count) = (ninesDocument count).text [] := by
  have key : written (Text.ofString "a") = ['"', 'a', '"'].map .char := by decide
  rw [Text.ofString, ninesText, String.toList_ofList]
  simp [ninesDocument, ninesNumeral, Document.text, padded, Document.core, Document.moreEntries,
    key, Numeral.chars, Numeral.wholeChars, Numeral.fractionChars, Numeral.powerChars]

theorem isGap_nil : IsGap [] := nofun

theorem modest_nines {limit count : Nat} (positive : 0 < limit) (within : count < maxDigits)
    : (ninesDocument count).Modest limit where
  depth := by
    rw [ninesDocument, Document.depth]
    exact positive
  numerals := by
    intro n member _
    simp only [ninesDocument, Document.numerals, Document.entriesNumerals, List.append_nil,
      List.mem_singleton] at member
    subst member
    rw [ninesNumeral, List.length_cons, List.length_replicate]
    exact within

theorem answers_within_limits_nines
    : let services := Handlers.rehearsal
      let event : Event := {
        kind := "check_run:rerequested", payload := Utf8.encode (ninesText 4299) }
      services.executor.Uncancelled
      ∧ services.reporter.Uncancelled
      ∧ (∃ detailsUrl, services.detailsUrl event.buildId = .ok detailsUrl)
      ∧ ∃ result,
          ((CheckRequest.runEvent services (Suite.factories services) event
            Release.equipped).trace ()).value
          = .ok result := by
  intro services event
  have executing : services.executor.Uncancelled := Executor.dryRun_uncancelled
  have reporting : services.reporter.Uncancelled := Reporter.console_uncancelled
  have shown : services.detailsUrl event.buildId = .ok _ :=
    Config.detailsUrl_default rfl event.buildId
  obtain ⟨_, _, _, _, documents, requests, _⟩ :=
    answers_within_limits executing reporting shown Release.equipped ()
  obtain ⟨_, bytes⟩ := documents [] (ninesDocument 4299) (ninesDocument 4299).value.table? isGap_nil
  have read
    : readTableBytes services.platform.jsonDepth event.payload
      = .ok (ninesDocument 4299).value.table? :=
    (bytes _ (ofString_ninesText 4299)).mpr ⟨modest_nines (by decide) (by decide), rfl⟩
  exact ⟨executing, reporting, ⟨_, shown⟩, requests.mpr ⟨_, read⟩⟩

theorem answer_nines {limit count : Nat} (positive : 0 < limit) (exceeds : maxDigits ≤ count)
    : (ninesDocument count).answer limit = .error (.longNumber (count + 1)) := by
  have long : maxDigits < count + 1 := Nat.lt_succ_of_le exceeds
  simp [Document.answer, ninesDocument, Document.fault?, Document.entriesFault?, Numeral.fault?,
    Numeral.isWhole, ninesNumeral, Nat.ne_of_gt positive, long]

/-- A table with a whole number of one digit too many is not answered, nor is a request with it. -/
theorem readTableBytes_nines
    : let limit := Platform.plain.jsonDepth
      let payload := Utf8.encode (ninesText 4300)
      let event : Event := { kind := "check_run:rerequested", payload }
      readTable limit (Text.ofString (ninesText 4300)) = .error (.longNumber 4301)
      ∧ readTableBytes limit payload = .error (.longNumber 4301)
      ∧ (CheckRequest.runEvent Handlers.rehearsal (Suite.factories Handlers.rehearsal) event
          Release.equipped).trace ()
        = ⟨.error (.longNumber 4301), (), []⟩ := by
  intro limit payload event
  have answer : (ninesDocument 4300).answer limit = .error (.longNumber 4301) :=
    answer_nines (by decide) (by decide)
  have text : readTable limit ((ninesDocument 4300).text []) = _ :=
    Document.readTable_text isGap_nil (ninesDocument 4300)
  have bytes : readTableBytes limit payload = _ :=
    Document.readTableBytes_text limit isGap_nil (ninesDocument 4300) (ofString_ninesText 4300)
  rw [answer] at text bytes
  rw [ofString_ninesText]
  have unread
    : (CheckRequest.runEvent Handlers.rehearsal (Suite.factories Handlers.rehearsal) event
        Release.equipped).trace ()
      = ⟨.error (.ofJson (.longNumber 4301)), (), []⟩ :=
    CheckRequest.runEvent_unread Release.equipped () _ bytes
  exact ⟨text, bytes, unread⟩

end Json

end Conductor
