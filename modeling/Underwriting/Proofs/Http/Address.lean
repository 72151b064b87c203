import Underwriting.Http.Route
import Underwriting.Proofs.Text.Split

/-! # Addresses of applications and runs

A request can ask to start a run for an application, or for the status of a run. Which number it
names is read from its path, in which the number may be spelled in many ways. One of them is in
decimal, so every application and every run has an address.
-/

namespace Underwriting

namespace HttpRequest

/-- The route that a request takes, if it comes with the method of the route. -/
def route? (request : HttpRequest) : Option Route :=
  (Route.find? request.segments).filter fun route => request.method = route.method

/-- The application that a request asks to start a run for. -/
def startsFor? (request : HttpRequest) : Option LoanId :=
  match request.route? with
  | some (.startRun number) => (Route.number? number).map LoanId.mk
  | _ => none

/-- The run whose status a request asks for. -/
def asksFor? (request : HttpRequest) : Option RunId :=
  match request.route? with
  | some (.runStatus number) => (Route.number? number).map RunId.mk
  | _ => none

theorem route?_eq_some_iff {request : HttpRequest} {route : Route} :
    request.route? = some route ↔
      Route.find? request.segments = some route ∧ request.method = route.method := by
  rw [route?, Option.filter_eq_some_iff, decide_eq_true_eq]

theorem startsFor?_eq_some_iff {request : HttpRequest} {loan : LoanId} :
    request.startsFor? = some loan ↔
      ∃ number, request.route? = some (.startRun number) ∧
        Route.number? number = some loan.value := by
  obtain ⟨value⟩ := loan
  unfold startsFor?
  split
  · rename_i number taken
    simp [taken]
  · rename_i other
    refine ⟨fun impossible => (by cases impossible), ?_⟩
    rintro ⟨number, taken, -⟩
    exact absurd taken (other number)

theorem asksFor?_eq_some_iff {request : HttpRequest} {id : RunId} :
    request.asksFor? = some id ↔
      ∃ number, request.route? = some (.runStatus number) ∧
        Route.number? number = some id.value := by
  obtain ⟨value⟩ := id
  unfold asksFor?
  split
  · rename_i number taken
    simp [taken]
  · rename_i other
    refine ⟨fun impossible => (by cases impossible), ?_⟩
    rintro ⟨number, taken, -⟩
    exact absurd taken (other number)

/-- Only a request that takes the route for it starts a run. -/
theorem startsFor?_eq_none {request : HttpRequest}
    (other : ∀ number, request.route? ≠ some (.startRun number)) : request.startsFor? = none := by
  rw [Option.eq_none_iff_forall_ne_some]
  intro loan starts
  obtain ⟨number, taken, -⟩ := startsFor?_eq_some_iff.mp starts
  exact other number taken

theorem startsFor?_of_asksFor {request : HttpRequest} {id : RunId}
    (asks : request.asksFor? = some id) : request.startsFor? = none := by
  obtain ⟨number, asked, -⟩ := asksFor?_eq_some_iff.mp asks
  refine startsFor?_eq_none ?_
  intro other taken
  rw [asked] at taken
  cases taken

end HttpRequest

/-- Text without a percent sign stands for its own bytes. -/
theorem percentDecode_of_plain : (text : List Char) → '%' ∉ text →
    percentDecode text = text.flatMap String.utf8EncodeChar
  | [], _ => rfl
  | character :: rest, plain => by
    have other : character ≠ '%' := fun same => plain (same ▸ List.mem_cons_self)
    have ih := percentDecode_of_plain rest fun member => plain (List.mem_cons_of_mem _ member)
    rw [List.flatMap_cons, ← ih, percentDecode]
    rintro high low more rfl
    exact absurd rfl other

theorem percentDecoded?_of_plain {text : List Char} (plain : '%' ∉ text) :
    percentDecoded? text = some (String.ofList text) := by
  have bytes : (⟨(percentDecode text).toArray⟩ : ByteArray) = text.utf8Encode := by
    rw [percentDecode_of_plain text plain, List.utf8Encode]
    ext1
    exact List.data_toByteArray.symm
  rw [percentDecoded?, bytes, String.fromUTF8?, dif_pos ByteArray.isValidUTF8_utf8Encode]
  rfl

/-- A number is read from its digits in a path. -/
theorem Route.number?_digits (number : UInt64) :
    number? (Numeral.digits number.toNat) = some number := by
  have plain := Numeral.not_mem_digits (show Numeral.isDigit '%' = false by decide) number.toNat
  have within : number.toNat ≤ UInt64.size - 1 := Nat.le_pred_of_lt number.toNat_lt
  rw [number?, percentDecoded?_of_plain plain]
  simp only [String.toList_ofList, Numeral.read?_digits within, Option.map_some,
    UInt64.ofNat_toNat]

namespace HttpRequest

/-- A request that names a number in decimal, behind the fixed segments of its path. -/
def numbered (method collection : String) (number : UInt64) : HttpRequest where
  method := method
  target := ⟨List.intercalate ['/'] ((Route.apiBase ++ ["underwriting", collection]).map
    String.toList ++ [Numeral.digits number.toNat])⟩
  contentType? := none
  body := ""

theorem segments_numbered (method : String) {collection : String}
    (plain : '/' ∉ collection.toList) (number : UInt64) :
    (numbered method collection number).segments =
      (Route.apiBase ++ ["underwriting", collection]).map String.toList ++
        [Numeral.digits number.toNat] := by
  refine splitOn_intercalate (List.append_ne_nil_of_right_ne_nil _ (List.cons_ne_nil _ _)) ?_
  have digits := Numeral.not_mem_digits (show Numeral.isDigit '/' = false by decide) number.toNat
  simp only [Route.apiBase, List.cons_append, List.nil_append, List.map_cons, List.map_nil,
    List.forall_mem_cons, List.not_mem_nil, false_implies, implies_true, and_true, plain, digits,
    not_false_eq_true]
  decide

end HttpRequest

/-- The request to start a run for an application. -/
def LoanId.startRequest (loan : LoanId) : HttpRequest := .numbered "POST" "run" loan.value

/-- The request for the status of a run. -/
def RunId.statusRequest (id : RunId) : HttpRequest := .numbered "GET" "runs" id.value

theorem LoanId.startsFor?_startRequest (loan : LoanId) :
    loan.startRequest.startsFor? = some loan := by
  have found : Route.find? loan.startRequest.segments =
      some (.startRun (Numeral.digits loan.value.toNat)) := by
    rw [startRequest, HttpRequest.segments_numbered "POST" (by decide)]
    simp [Route.find?, Route.apiBase, Route.numbered?, Numeral.digits_ne_nil]
  exact HttpRequest.startsFor?_eq_some_iff.mpr
    ⟨_, HttpRequest.route?_eq_some_iff.mpr ⟨found, rfl⟩, Route.number?_digits loan.value⟩

theorem RunId.asksFor?_statusRequest (id : RunId) : id.statusRequest.asksFor? = some id := by
  have found : Route.find? id.statusRequest.segments =
      some (.runStatus (Numeral.digits id.value.toNat)) := by
    rw [statusRequest, HttpRequest.segments_numbered "GET" (by decide)]
    simp [Route.find?, Route.apiBase, Route.numbered?, Numeral.digits_ne_nil]
  exact HttpRequest.asksFor?_eq_some_iff.mpr
    ⟨_, HttpRequest.route?_eq_some_iff.mpr ⟨found, rfl⟩, Route.number?_digits id.value⟩

end Underwriting
