/-
The answers of the HTTP server.
-/
import ContainerSSH.ListBlocks
import ContainerSSH.Message

namespace ContainerSSH.HttpHandler

/-! ### Responses and marshallers -/

inductive Body (β : Type) where
  | empty
  | value (body : β)
  | error (text : String)

structure ServerResponse (β : Type) where
  statusCode : UInt16 := 200
  body : Body β := .empty

def internalErrorResponse {β : Type} : ServerResponse β := ⟨500, .error "Internal Server Error"⟩

def badRequestResponse {β : Type} : ServerResponse β := ⟨400, .error "Bad Request"⟩

structure ResponseMarshaller (β : Type) where
  supportsMIME : String → Bool
  marshal : Body β → Except GoError (List UInt8)

/-- What the handler takes from other libraries: `json.Marshal`, which has no error for
a map of strings, the text of a value, `strconv.ParseFloat` with the order of its
results, and `sort.SliceStable`. -/
structure Library (β Quality : Type) where
  jsonMarshal : Body β → Except GoError (List UInt8)
  errorJSON : String → List UInt8
  jsonMarshal_error : ∀ text, jsonMarshal (.error text) = .ok (errorJSON text)
  marshalText : β → Except GoError (List UInt8)
  one : Quality
  parseFloat : String → Option Quality
  gt : Quality → Quality → Bool
  sliceStable : (String → String → Bool) → List String → List String
  sliceStable_perm : ∀ less list, (sliceStable less list).Perm list

variable {β Quality : Type} (lib : Library β Quality)

def jsonMarshaller : ResponseMarshaller β where
  supportsMIME mime := mime = "application/json" || mime = "application/*" || mime = "*/*"
  marshal := lib.jsonMarshal

def textMarshaller : ResponseMarshaller β where
  supportsMIME mime := mime = "text/html" || mime = "text/plain" || mime = "text/*" || mime = "*/*"
  marshal
    | .value body => lib.marshalText body
    | .error text => .error (.plain ("cannot marshal unknown type: map[error:" ++ text ++ "]"))
    | .empty => .error (.plain "cannot marshal unknown type: <nil>")

structure Handler (β : Type) where
  defaultResponseMarshaller : ResponseMarshaller β
  defaultResponseType : String
  responseMarshallers : List (ResponseMarshaller β)

def newServerHandler : Handler β := ⟨jsonMarshaller lib, "application/json", [jsonMarshaller lib]⟩

def newServerHandlerNegotiate : Handler β :=
  ⟨jsonMarshaller lib, "application/json", [jsonMarshaller lib, textMarshaller lib]⟩

/-! ### Negotiation -/

def isSpace (c : Char) : Bool :=
  let n := c.toNat
  (9 ≤ n && n ≤ 13) || n = 32 || n = 0x85 || n = 0xa0 || n = 0x1680 ||
    (0x2000 ≤ n && n ≤ 0x200a) || n = 0x2028 || n = 0x2029 || n = 0x202f || n = 0x205f ||
    n = 0x3000

def trimSpace (text : List Char) : List Char :=
  ((text.dropWhile isSpace).reverse.dropWhile isSpace).reverse

/-- `strings.SplitN` into two parts at most. -/
def splitTwo (separator : Char) (text : List Char) : String × Option String :=
  match text.dropWhile (· ≠ separator) with
  | [] => (.ofList text, none)
  | _ :: rest => (.ofList (text.takeWhile (· ≠ separator)), some (.ofList rest))

def parseOffer (accept : List Char) : Option (String × Quality) :=
  match splitTwo ';' (trimSpace accept) with
  | (mime, none) => some (mime, lib.one)
  | (mime, some parameter) =>
    match splitTwo '=' parameter.toList with
    | ("q", some q) => (lib.parseFloat q).map fun q => (mime, q)
    | _ => none

def parseAccept (acceptHeader : String) : Option (List (String × Quality)) :=
  (acceptHeader.toList.splitOn ',').mapM (parseOffer lib)

/-- The last offer of a type decides about its quality. -/
def moreWanted (offers : List (String × Quality)) (a b : String) : Bool :=
  match offers.reverse.lookup a, offers.reverse.lookup b with
  | some q, some r => lib.gt q r
  | _, _ => false

def Handler.findMarshaller (h : Handler β) (acceptHeader : String) :
    Option (ResponseMarshaller β) × String × Nat :=
  if acceptHeader = "" then (some h.defaultResponseMarshaller, h.defaultResponseType, 200)
  else
    match parseAccept lib acceptHeader with
    | none => (none, h.defaultResponseType, 400)
    | some offers =>
      let acceptList := lib.sliceStable (moreWanted lib offers) (offers.map Prod.fst)
      match acceptList.findSome? fun a =>
        (h.responseMarshallers.find? (·.supportsMIME a)).map fun m => (m, a) with
      | some (marshaller, a) => (some marshaller, a, 200)
      | none => (none, h.defaultResponseType, 406)

/-! ### `ServeHTTP` -/

inductive Call where
  | writeHeader (statusCode : Nat)
  | addHeader (name value : String)
  | write (bytes : List UInt8)
deriving DecidableEq

inductive HandlerError where
  | badRequest
  | other (err : GoError)

structure Handled (β : Type) where
  response : ServerResponse β := {}
  err : Option HandlerError := none

inductive Outcome where
  | returned
  | nilMarshaller
  | marshalBug
deriving DecidableEq

def Handled.answer (handled : Handled β) : ServerResponse β :=
  match handled.err with
  | none => handled.response
  | some .badRequest => badRequestResponse
  | some (.other _) => internalErrorResponse

def send (response : ServerResponse β) (responseType : String) (bytes : List UInt8) : List Call :=
  [.writeHeader response.statusCode.toNat, .addHeader "Content-Type" responseType, .write bytes]

def Handler.serveHTTP (h : Handler β) (acceptHeader : String) (handled : Handled β) :
    List Call × Outcome :=
  let response := handled.answer
  let failure : ServerResponse β := internalErrorResponse
  match h.findMarshaller lib acceptHeader with
  | (marshaller, responseType, statusCode) =>
    let early := if statusCode ≠ 200 then [Call.writeHeader statusCode] else []
    match marshaller with
    | none => (early, .nilMarshaller)
    | some marshaller =>
      match marshaller.marshal response.body with
      | .ok bytes => (early ++ send response responseType bytes, .returned)
      | .error _ =>
        match lib.jsonMarshal failure.body with
        | .error _ => (early, .marshalBug)
        | .ok bytes => (early ++ send failure responseType bytes, .returned)

/-! ### What is answered -/

def Call.status? : Call → Option Nat
  | .writeHeader statusCode => some statusCode
  | _ => none

def statusLines (calls : List Call) : List Nat := calls.filterMap Call.status?

/-- The type of the content is set while there is no status line yet. -/
def ContentTypeFirst (calls : List Call) : Prop :=
  ∃ before responseType after,
    calls = before ++ .addHeader "Content-Type" responseType :: after ∧ statusLines before = []

def Malformed (acceptHeader : String) : Prop :=
  acceptHeader ≠ "" ∧ ∃ accept ∈ acceptHeader.toList.splitOn ',', parseOffer lib accept = none

/-- No type is asked for, or one that a marshaller supports. -/
def Handler.Offers (h : Handler β) (acceptHeader : String) : Prop :=
  acceptHeader = "" ∨ ∃ accept ∈ acceptHeader.toList.splitOn ',', ∃ offer,
    parseOffer lib accept = some offer ∧ ∃ m ∈ h.responseMarshallers, m.supportsMIME offer.1 = true

/-- The order in which the offers are tried does not decide whether one is found. -/
theorem mem_sliceStable {less : String → String → Bool} {mime : String} {texts : List (List Char)} :
    mime ∈ lib.sliceStable less ((texts.filterMap (parseOffer lib)).map Prod.fst) ↔
      ∃ accept ∈ texts, ∃ offer, parseOffer lib accept = some offer ∧ offer.1 = mime := by
  rw [(lib.sliceStable_perm _ _).mem_iff, List.mem_map]
  simp only [List.mem_filterMap]
  constructor
  · rintro ⟨offer, ⟨accept, haccept, hoffer⟩, hmime⟩
    exact ⟨accept, haccept, offer, hoffer, hmime⟩
  · rintro ⟨accept, haccept, offer, hoffer, hmime⟩
    exact ⟨offer, ⟨accept, haccept, hoffer⟩, hmime⟩

theorem findMarshaller_cases (lib : Library β Quality) (h : Handler β) (acceptHeader : String) :
    (Malformed lib acceptHeader ∧
        h.findMarshaller lib acceptHeader = (none, h.defaultResponseType, 400)) ∨
      (¬ Malformed lib acceptHeader ∧ ¬ h.Offers lib acceptHeader ∧
        h.findMarshaller lib acceptHeader = (none, h.defaultResponseType, 406)) ∨
      (¬ Malformed lib acceptHeader ∧ h.Offers lib acceptHeader ∧
        ∃ m ∈ h.defaultResponseMarshaller :: h.responseMarshallers, ∃ responseType,
          h.findMarshaller lib acceptHeader = (some m, responseType, 200)) := by
  unfold Handler.findMarshaller
  split_ifs with hempty
  · exact .inr (.inr ⟨fun h => h.1 hempty, .inl hempty, _, List.mem_cons_self, _, rfl⟩)
  rw [parseAccept, ListBlocks.mapM_eq_ite]
  by_cases hall : ∀ accept ∈ acceptHeader.toList.splitOn ',', parseOffer lib accept ≠ none
  · have hwell : ¬ Malformed lib acceptHeader := fun ⟨_, accept, haccept, hnone⟩ =>
      hall accept haccept hnone
    rw [if_pos hall]
    dsimp only
    split
    next m a hfound =>
      obtain ⟨mime, hmime, hfind⟩ := List.exists_of_findSome?_eq_some hfound
      obtain ⟨m', hm, hpair⟩ := Option.map_eq_some_iff.mp hfind
      obtain ⟨rfl, rfl⟩ := Prod.mk.inj hpair
      obtain ⟨accept, haccept, offer, hoffer, rfl⟩ := (mem_sliceStable lib).mp hmime
      have hmem := List.mem_of_find?_eq_some hm
      have hsupports : m'.supportsMIME offer.1 = true := by simpa using List.find?_some hm
      exact .inr (.inr ⟨hwell, .inr ⟨accept, haccept, offer, hoffer, m', hmem, hsupports⟩,
        m', List.mem_cons_of_mem _ hmem, offer.1, rfl⟩)
    next hnone =>
      refine .inr (.inl ⟨hwell, ?_, rfl⟩)
      rintro (h | ⟨accept, haccept, offer, hoffer, m, hm, hsupports⟩)
      · exact hempty h
      · have hfind := List.findSome?_eq_none_iff.mp hnone offer.1
          ((mem_sliceStable lib).mpr ⟨accept, haccept, offer, hoffer, rfl⟩)
        rw [Option.map_eq_none_iff] at hfind
        exact List.find?_eq_none.mp hfind m hm hsupports
  · rw [if_neg hall]
    push Not at hall
    exact .inl ⟨⟨hempty, hall⟩, rfl⟩

theorem not_contentTypeFirst_writeHeader (statusCode : Nat) (calls : List Call) :
    ¬ ContentTypeFirst (.writeHeader statusCode :: calls) := by
  rintro ⟨before, responseType, after, hcalls, hbefore⟩
  cases before with
  | nil => cases hcalls
  | cons first before =>
    cases hcalls
    simp [statusLines, Call.status?] at hbefore

theorem serveHTTP_of_nil {h : Handler β} {acceptHeader responseType : String} {status : Nat}
    (hfind : h.findMarshaller lib acceptHeader = (none, responseType, status))
    (hstatus : status ≠ 200) (handled : Handled β) :
    h.serveHTTP lib acceptHeader handled = ([.writeHeader status], .nilMarshaller) := by
  simp [Handler.serveHTTP, hfind, hstatus]

/-- With a marshaller there is an answer: the one of the request handler, or that of an
internal error if it cannot be marshalled. -/
theorem serveHTTP_of_found {h : Handler β} {acceptHeader : String} {m : ResponseMarshaller β}
    {responseType : String} (handled : Handled β)
    (hfind : h.findMarshaller lib acceptHeader = (some m, responseType, 200)) :
    ∃ (answer : ServerResponse β) (bytes : List UInt8),
      h.serveHTTP lib acceptHeader handled = (send answer responseType bytes, .returned) ∧
      answer.statusCode.toNat = if (m.marshal handled.answer.body).isOk
        then handled.answer.statusCode.toNat else 500 := by
  unfold Handler.serveHTTP
  rw [hfind]
  cases hmarshal : m.marshal handled.answer.body with
  | ok bytes => exact ⟨handled.answer, bytes, by simp [hmarshal], rfl⟩
  | error _ =>
    refine ⟨internalErrorResponse, lib.errorJSON "Internal Server Error", ?_, rfl⟩
    simp [hmarshal, internalErrorResponse, lib.jsonMarshal_error]

/-- `WriteHeader` is called once, with the status that belongs to the header and to what
the request handler and the marshaller have returned.  A nil marshaller is used exactly
if the header is malformed or nothing in it is supported, and the type of the content is
never set before the status line. -/
theorem serveHTTP_iff (lib : Library β Quality) (h : Handler β) (acceptHeader : String)
    (handled : Handled β) :
    (∃ status, statusLines (h.serveHTTP lib acceptHeader handled).1 = [status] ∧
      (Malformed lib acceptHeader → status = 400) ∧
      (¬ Malformed lib acceptHeader → ¬ h.Offers lib acceptHeader → status = 406) ∧
      (¬ Malformed lib acceptHeader → h.Offers lib acceptHeader →
        ∃ m ∈ h.defaultResponseMarshaller :: h.responseMarshallers, status =
          if (m.marshal handled.answer.body).isOk then handled.answer.statusCode.toNat
          else 500)) ∧
    ((h.serveHTTP lib acceptHeader handled).2 = .nilMarshaller ↔
      Malformed lib acceptHeader ∨ ¬ h.Offers lib acceptHeader) ∧
    ((h.serveHTTP lib acceptHeader handled).2 ≠ .nilMarshaller →
      (h.serveHTTP lib acceptHeader handled).2 = .returned) ∧
    ¬ ContentTypeFirst (h.serveHTTP lib acceptHeader handled).1 := by
  rcases findMarshaller_cases lib h acceptHeader with
    ⟨hbad, hfind⟩ | ⟨hwell, hnone, hfind⟩ | ⟨hwell, hoffers, m, hm, responseType, hfind⟩
  · rw [serveHTTP_of_nil lib hfind (by decide)]
    exact ⟨⟨400, rfl, fun _ => rfl, fun h => absurd hbad h, fun h => absurd hbad h⟩,
      iff_of_true rfl (.inl hbad), fun h => absurd rfl h, not_contentTypeFirst_writeHeader _ _⟩
  · rw [serveHTTP_of_nil lib hfind (by decide)]
    exact ⟨⟨406, rfl, fun h => absurd h hwell, fun _ _ => rfl, fun _ h => absurd h hnone⟩,
      iff_of_true rfl (.inr hnone), fun h => absurd rfl h, not_contentTypeFirst_writeHeader _ _⟩
  · obtain ⟨answer, bytes, hserve, hstatus⟩ := serveHTTP_of_found lib handled hfind
    rw [hserve]
    refine ⟨⟨answer.statusCode.toNat, rfl, fun h => absurd h hwell,
      fun _ h => absurd hoffers h, fun _ _ => ⟨m, hm, hstatus⟩⟩, ?_, fun _ => rfl,
      not_contentTypeFirst_writeHeader _ _⟩
    refine iff_of_false nofun ?_
    rintro (h | h)
    · exact hwell h
    · exact h hoffers

def plainLibrary : Library Unit Nat where
  jsonMarshal
    | .empty => .ok "null".toUTF8.data.toList
    | .value _ => .ok "\x7b\x7d".toUTF8.data.toList
    | .error text => .ok ("\x7b\"error\":\"" ++ text ++ "\"\x7d").toUTF8.data.toList
  errorJSON text := ("\x7b\"error\":\"" ++ text ++ "\"\x7d").toUTF8.data.toList
  jsonMarshal_error _ := rfl
  marshalText _ := .error (.plain "cannot marshal unknown type: \x7b\x7d")
  one := 1
  parseFloat := String.toNat?
  gt q r := r < q
  sliceStable _ list := list
  sliceStable_perm _ list := .refl list

/-- A client that asks for text only makes the JSON handler use a nil marshaller, and one
that asks for nothing gets its status line before the type of the content. -/
theorem text_asked_for_uses_nil :
    (newServerHandler plainLibrary).serveHTTP plainLibrary "text/plain" {} =
      ([.writeHeader 406], .nilMarshaller) ∧
    (newServerHandler plainLibrary).serveHTTP plainLibrary "" {} =
      ([.writeHeader 200, .addHeader "Content-Type" "application/json",
        .write [110, 117, 108, 108]], .returned) :=
  ⟨by decide, by decide⟩

end ContainerSSH.HttpHandler
