import HostSurvey.Probe.Snmp
import HostSurvey.Proofs.Probe.Elements
/-!
# Answers of managed devices

What an answer is, is told by its elements (`IsAnswer`): a message of version, community and body, a body of the
number of the request, two integers and bindings, and among the bindings a first one to a text.

1. There is a banner if and only if the bytes are an answer with that number. It is the text, and nothing behind the
   text is looked at (`banner?_eq_some`).
2. An answer that was put together from its elements is read as what it was put together from, and none of its
   pieces is read at all (`banner?_encode`, `banner?_piece`). Nor is a request (`banner?_request`).
-/
namespace HostSurvey.Probe.Snmp

open HostSurvey.Text Ber

/-! ## Elements in a row -/

/-- Some elements stand in front, one behind the other. What follows them does not matter. -/
inductive Begins : Bytes → List (UInt8 × Bytes) → Prop where
  | done (bytes : Bytes) : Begins bytes []
  | next {tag : UInt8} {content written rest : Bytes} {more : List (UInt8 × Bytes)}
    (element : IsElement tag content written) (others : Begins rest more) :
    Begins (written ++ rest) ((tag, content) :: more)

theorem begins_cons {tag : UInt8} {content bytes : Bytes} {more : List (UInt8 × Bytes)} :
    Begins bytes ((tag, content) :: more) ↔ ∃ rest, take? tag bytes = some (content, rest) ∧ Begins rest more := by
  constructor
  · intro begins
    cases begins with
    | next element others => exact ⟨_, take?_eq_some.mpr ⟨_, element, rfl⟩, others⟩
  · rintro ⟨rest, taken, others⟩
    obtain ⟨written, element, rfl⟩ := take?_eq_some.mp taken
    exact .next element others

/-! ## What an answer is -/

/-- Of the bindings in front, the first one to a text is to this text. -/
inductive FirstText (text : Bytes) : Bytes → Prop where
  | here {written binding object rest : Bytes} (element : IsElement sequenceTag binding written)
    (bound : Begins binding [(objectTag, object), (textTag, text)]) : FirstText text (written ++ rest)
  | later {written binding object rest : Bytes} (element : IsElement sequenceTag binding written)
    (named : Begins binding [(objectTag, object)])
    (other : ∀ object text, ¬ Begins binding [(objectTag, object), (textTag, text)])
    (behind : FirstText text rest) : FirstText text (written ++ rest)

/-- Bytes that answer the request with a number by a text. -/
def IsAnswer (id : Int) (text bytes : Bytes) : Prop :=
  ∃ message version community body number status index bindings,
    Begins bytes [(sequenceTag, message)] ∧
    Begins message [(integerTag, version), (textTag, community), (answerTag, body)] ∧
    Begins body [(integerTag, number), (integerTag, status), (integerTag, index), (sequenceTag, bindings)] ∧
    (number ≠ [] ∧ number.length ≤ 8 ∧ signed number = id) ∧
    FirstText text bindings

theorem firstText?_eq (bindings : Bytes) : firstText? bindings =
    match take? sequenceTag bindings with
    | none => none
    | some (binding, next) =>
      match take? objectTag binding with
      | none => none
      | some (_, bound) =>
        match take? textTag bound with
        | some (text, _) => some (Utf8.decodeLossy text)
        | none => firstText? next := by
  rw [firstText?.eq_def]
  split
  · rename_i missing
    exact missing ▸ rfl
  · rename_i taken
    exact taken ▸ rfl

/-- The bindings are searched from front to back, and each one has to name an object. -/
theorem firstText?_eq_some {bindings : Bytes} {s : String} :
    firstText? bindings = some s ↔ ∃ text, FirstText text bindings ∧ s = Utf8.decodeLossy text := by
  constructor
  · intro found
    fun_induction firstText? bindings with
    | case1 => cases found
    | case2 => cases found
    | case3 bindings binding next taken object bound named text behind told =>
      cases found
      obtain ⟨written, element, rfl⟩ := take?_eq_some.mp taken
      refine ⟨text, .here element (begins_cons.mpr ⟨bound, named, begins_cons.mpr ⟨behind, told, .done _⟩⟩), rfl⟩
    | case4 bindings binding next taken object bound named other ih =>
      obtain ⟨text, first, rfl⟩ := ih found
      obtain ⟨written, element, rfl⟩ := take?_eq_some.mp taken
      refine ⟨text, .later element (begins_cons.mpr ⟨bound, named, .done _⟩) ?_ first, rfl⟩
      intro object' text' bound'
      obtain ⟨rest, named', told⟩ := begins_cons.mp bound'
      cases named.symm.trans named'
      obtain ⟨_, told, _⟩ := begins_cons.mp told
      cases other.symm.trans told
  · rintro ⟨text, first, rfl⟩
    induction first with
    | here element bound =>
      obtain ⟨rest, named, told⟩ := begins_cons.mp bound
      obtain ⟨_, told, _⟩ := begins_cons.mp told
      rw [firstText?_eq, take?_eq_some.mpr ⟨_, element, rfl⟩]
      simp only [named, told]
    | @later _ binding object next element bound other behind ih =>
      obtain ⟨rest, named, _⟩ := begins_cons.mp bound
      have untold : take? textTag rest = none := by
        cases told : take? textTag rest with
        | none => rfl
        | some found => exact absurd (begins_cons.mpr ⟨rest, named, begins_cons.mpr ⟨_, told, .done _⟩⟩) (other _ _)
      rw [firstText?_eq, take?_eq_some.mpr ⟨_, element, rfl⟩]
      simp only [named, untold, ih]

theorem banner?_eq_some {bytes : Bytes} {id : Int} {s : String} :
    banner? bytes id = some s ↔ ∃ text, IsAnswer id text bytes ∧ s = Utf8.decodeLossy text := by
  constructor
  · intro read
    unfold banner? at read
    obtain ⟨⟨message, _⟩, outer, read⟩ := Option.bind_eq_some_iff.mp read
    obtain ⟨⟨version, _⟩, first, read⟩ := Option.bind_eq_some_iff.mp read
    obtain ⟨⟨community, _⟩, second, read⟩ := Option.bind_eq_some_iff.mp read
    obtain ⟨⟨body, _⟩, third, read⟩ := Option.bind_eq_some_iff.mp read
    obtain ⟨⟨number, _⟩, fourth, read⟩ := Option.bind_eq_some_iff.mp read
    obtain ⟨found, numbered, read⟩ := Option.bind_eq_some_iff.mp read
    by_cases same : found = id
    · subst same
      simp only [ne_eq, not_true_eq_false, if_false] at read
      obtain ⟨⟨status, _⟩, fifth, read⟩ := Option.bind_eq_some_iff.mp read
      obtain ⟨⟨index, _⟩, sixth, read⟩ := Option.bind_eq_some_iff.mp read
      obtain ⟨⟨bindings, _⟩, seventh, read⟩ := Option.bind_eq_some_iff.mp read
      obtain ⟨text, told, rfl⟩ := firstText?_eq_some.mp read
      refine ⟨text, ⟨message, version, community, body, number, status, index, bindings, ?_, ?_, ?_, ?_, told⟩, rfl⟩
      · exact begins_cons.mpr ⟨_, outer, .done _⟩
      · exact begins_cons.mpr ⟨_, first, begins_cons.mpr ⟨_, second, begins_cons.mpr ⟨_, third, .done _⟩⟩⟩
      · exact begins_cons.mpr ⟨_, fourth, begins_cons.mpr ⟨_, fifth,
          begins_cons.mpr ⟨_, sixth, begins_cons.mpr ⟨_, seventh, .done _⟩⟩⟩⟩
      · exact integer?_eq_some.mp numbered
    · simp only [ne_eq, same, not_false_eq_true, if_true] at read
      cases read
  · rintro ⟨text, ⟨message, version, community, body, number, status, index, bindings, outer, inside, within,
      numbered, told⟩, rfl⟩
    obtain ⟨_, outer, _⟩ := begins_cons.mp outer
    obtain ⟨_, first, inside⟩ := begins_cons.mp inside
    obtain ⟨_, second, inside⟩ := begins_cons.mp inside
    obtain ⟨_, third, _⟩ := begins_cons.mp inside
    obtain ⟨_, fourth, within⟩ := begins_cons.mp within
    obtain ⟨_, fifth, within⟩ := begins_cons.mp within
    obtain ⟨_, sixth, within⟩ := begins_cons.mp within
    obtain ⟨_, seventh, _⟩ := begins_cons.mp within
    have read := firstText?_eq_some.mpr ⟨text, told, rfl⟩
    simp [banner?, outer, first, second, third, fourth, integer?_eq_some.mpr numbered, fifth, sixth, seventh, read]

/-! ## Answers put together -/

/-- A value that an object is bound to: an element with any tag. -/
structure Binding where
  object : Bytes
  tag : UInt8
  content : Bytes
  deriving Repr, DecidableEq

def Binding.encode (b : Binding) : Bytes :=
  element sequenceTag (element objectTag b.object ++ element b.tag b.content)

/-- The bytes of the number in a request. -/
def number (id : UInt32) : Bytes :=
  (List.range 4).map fun i => UInt8.ofNat (id.toNat / Nat.pow 256 (3 - i) % 256)

/-- What an answer is put together from. -/
structure Answer where
  version : Bytes
  community : Bytes
  /-- The number of the request. -/
  id : UInt32
  status : Bytes
  index : Bytes
  bindings : List Binding
  deriving Repr, DecidableEq

namespace Answer

def body (a : Answer) : Bytes :=
  element integerTag (number a.id) ++ (element integerTag a.status ++ (element integerTag a.index ++
    element sequenceTag (a.bindings.flatMap Binding.encode)))

def message (a : Answer) : Bytes :=
  element integerTag a.version ++ (element textTag a.community ++ element answerTag a.body)

def encode (a : Answer) : Bytes := element sequenceTag a.message

/-- The first text that an object is bound to. -/
def text? (a : Answer) : Option String :=
  (a.bindings.find? fun b => b.tag = textTag).map fun b => Utf8.decodeLossy b.content

end Answer

theorem integer?_number {id : UInt32} (small : id.toNat < 2 ^ 31) : integer? (number id) = some (id.toNat : Int) := by
  have bytes : number id = [UInt8.ofNat (id.toNat / 16777216 % 256), UInt8.ofNat (id.toNat / 65536 % 256),
      UInt8.ofNat (id.toNat / 256 % 256), UInt8.ofNat (id.toNat / 1 % 256)] := rfl
  have low : UInt8.ofNat (id.toNat / 16777216 % 256) < 0x80 := by
    rw [UInt8.lt_iff_toNat_lt, UInt8.toNat_ofNat']
    show _ < 128
    omega
  have whole : value (number id) = id.toNat := by
    simp only [bytes, value_cons, UInt8.toNat_ofNat', List.length_cons, List.length_nil]
    simp only [value, List.foldl_nil]
    omega
  refine integer?_eq_some.mpr ⟨by simp [bytes], by simp [bytes], ?_⟩
  rw [← whole, bytes, signed, if_pos low]

theorem firstText?_encode {bindings : List Binding} (fits : (bindings.flatMap Binding.encode).length < 2 ^ 64) :
    firstText? (bindings.flatMap Binding.encode) =
      (bindings.find? fun b => b.tag = textTag).map fun b => Utf8.decodeLossy b.content := by
  induction bindings with
  | nil => rw [firstText?_eq]; rfl
  | cons b others ih =>
    rw [List.flatMap_cons, Binding.encode] at fits ⊢
    obtain ⟨taken, inside, behind⟩ := take?_front fits
    obtain ⟨named, _, bound⟩ := take?_front inside
    rw [firstText?_eq, taken]
    dsimp only
    rw [named]
    dsimp only
    by_cases text : b.tag = textTag
    · rw [text] at bound ⊢
      rw [(take?_whole bound).1]
      simp [text]
    · rw [← List.append_nil (element b.tag b.content), take?_other text (take?_whole bound).2 []]
      simp only [List.find?_cons, text, decide_false]
      exact ih behind

/-- An answer is read as what it was put together from. -/
theorem banner?_encode {a : Answer} (numbered : a.id.toNat < 2 ^ 31) (fits : a.encode.length < 2 ^ 64) (id : Int) :
    banner? a.encode id = if id = a.id.toNat then a.text? else none := by
  obtain ⟨message, fits⟩ : take? sequenceTag a.encode = some (a.message, []) ∧ _ := take?_whole fits
  obtain ⟨version, _, fits⟩ : take? integerTag a.message = some (a.version, _) ∧ _ := take?_front fits
  obtain ⟨community, _, fits⟩ := take?_front fits
  obtain ⟨body, fits⟩ := take?_whole fits
  obtain ⟨written, _, fits⟩ : take? integerTag a.body = some (number a.id, _) ∧ _ := take?_front fits
  obtain ⟨status, _, fits⟩ := take?_front fits
  obtain ⟨index, _, fits⟩ := take?_front fits
  obtain ⟨bindings, fits⟩ := take?_whole fits
  unfold banner?
  simp only [message, version, community, body, written, integer?_number numbered, status, index, bindings,
    firstText?_encode fits, Option.bind_eq_bind, Option.bind_some]
  by_cases same : id = a.id.toNat
  · simp [same, Answer.text?]
  · simp [same, Ne.symm same]

/-- Nothing is read from a piece of an answer. -/
theorem banner?_piece {a : Answer} (fits : a.encode.length < 2 ^ 64) {piece : Bytes} (begins : piece <+: a.encode)
    (missing : piece ≠ a.encode) (id : Int) : banner? piece id = none := by
  have element : IsElement sequenceTag a.message a.encode := isElement_element (take?_whole fits).2
  unfold banner?
  rw [take?_piece element begins missing]
  rfl

/-! ## Requests -/

def bodyOf (id : UInt32) : Bytes :=
  element integerTag (number id) ++ (element integerTag [0] ++ (element integerTag [0] ++
    element sequenceTag (element sequenceTag (element objectTag description ++ element nullTag []))))

theorem request_eq (community : String) (id : UInt32) : request community id =
    element sequenceTag (element integerTag [1] ++ (element textTag (Utf8.encode community) ++
      element requestTag (bodyOf id))) := by
  simp only [request, bodyOf, number, List.append_assoc]

/-- A request bears its number where an answer does. -/
theorem request_begins {community : String} {id : UInt32} (fits : (request community id).length < 2 ^ 64) :
    ∃ message body, Begins (request community id) [(sequenceTag, message)] ∧
      Begins message [(integerTag, [1]), (textTag, Utf8.encode community), (requestTag, body)] ∧
      Begins body [(integerTag, number id)] := by
  rw [request_eq] at fits ⊢
  obtain ⟨message, fits⟩ := take?_whole fits
  obtain ⟨version, _, fits⟩ := take?_front fits
  obtain ⟨word, _, fits⟩ := take?_front fits
  obtain ⟨body, fits⟩ := take?_whole fits
  obtain ⟨written, _, _⟩ := take?_front fits
  refine ⟨_, bodyOf id, begins_cons.mpr ⟨_, message, .done _⟩, ?_, begins_cons.mpr ⟨_, written, .done _⟩⟩
  exact begins_cons.mpr ⟨_, version, begins_cons.mpr ⟨_, word, begins_cons.mpr ⟨_, body, .done _⟩⟩⟩

theorem banner?_request {community : String} {number : UInt32} (fits : (request community number).length < 2 ^ 64)
    (id : Int) : banner? (request community number) id = none := by
  rw [request_eq] at fits ⊢
  obtain ⟨message, fits⟩ := take?_whole fits
  obtain ⟨version, _, fits⟩ := take?_front fits
  obtain ⟨word, _, fits⟩ := take?_front fits
  have other : take? answerTag (element requestTag (bodyOf number) ++ []) = none :=
    take?_other (by decide) (take?_whole fits).2 []
  rw [List.append_nil] at other
  unfold banner?
  simp only [message, version, word, other, Option.bind_eq_bind, Option.bind_some, Option.bind_none]

/-! ## The main theorem -/

/-- What reading comes to, for an answer that is put together and for any other bytes. -/
structure IsReadExactly (a : Answer) : Prop where
  /-- With its own number, the answer is read as the first text among its bindings; with any other number as nothing. -/
  whole : ∀ id, banner? a.encode id = if id = a.id.toNat then a.text? else none
  piece : ∀ piece id, piece <+: a.encode → piece ≠ a.encode → banner? piece id = none
  /-- The request with the same number bears it in the same bytes. -/
  asked : ∀ community, (request community a.id).length < 2 ^ 64 →
    ∃ message body, Begins (request community a.id) [(sequenceTag, message)] ∧
      Begins message [(integerTag, [1]), (textTag, Utf8.encode community), (requestTag, body)] ∧
      Begins body [(integerTag, number a.id)]
  /-- A request is no answer. -/
  request : ∀ community number id, (request community number).length < 2 ^ 64 →
    banner? (Snmp.request community number) id = none
  /-- Whatever bytes come, only an answer with the number has a banner, which is the first text in it. -/
  sound : ∀ bytes id s, banner? bytes id = some s ↔ ∃ text, IsAnswer id text bytes ∧ s = Utf8.decodeLossy text

/-- **An answer is read exactly.** An answer to the request with its number is read as the first text among its
bindings, whatever else it is put together from. A piece of it, an answer to another request and a request are read
as nothing. Nor is anything else than an answer with the number: what is read was the first text in one.

The bound on the size is that of a length with eight digits. -/
theorem an_answer_is_read_exactly {a : Answer} (numbered : a.id.toNat < 2 ^ 31) (fits : a.encode.length < 2 ^ 64) :
    IsReadExactly a where
  whole := banner?_encode numbered fits
  piece _ id begins missing := banner?_piece fits begins missing id
  asked _ fits := request_begins fits
  request _ _ id fits := banner?_request fits id
  sound _ _ _ := banner?_eq_some

/-- The time since a device was started, and a description of two hundred characters. -/
private def uptimeFirst : Answer where
  version := [1]
  community := [0x70]
  id := 9
  status := [0]
  index := [0]
  bindings := [⟨[0x2b, 6, 1, 2, 1, 1, 3, 0], 0x43, [1, 0]⟩, ⟨description, textTag, List.replicate 200 0x78⟩]

theorem a_description_behind_the_uptime :
    uptimeFirst.id.toNat < 2 ^ 31 ∧ uptimeFirst.encode.length < 2 ^ 64 ∧ IsReadExactly uptimeFirst ∧
      banner? uptimeFirst.encode 9 = some (String.ofList (List.replicate 200 'x')) ∧
      banner? uptimeFirst.encode 10 = none := by
  have fits : uptimeFirst.encode.length < 2 ^ 64 := by decide +kernel
  have read := an_answer_is_read_exactly (a := uptimeFirst) (by decide) fits
  refine ⟨by decide, fits, read, ?_, ?_⟩
  · rw [read.whole]
    decide +kernel
  · rw [read.whole]
    rfl

end HostSurvey.Probe.Snmp
