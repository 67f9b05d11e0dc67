import HostSurvey.Probe.Peer
import HostSurvey.Text.Line
/-!
# Terminal servers

A terminal server opens with commands that negotiate options; the text for the user follows. Each
command begins with the byte 255, and this byte is written twice where it is meant as data.

1. Every offer is declined: `negotiate` answers each one in order.
2. A command may be cut anywhere between two reads; what is left of it waits for the next one.
3. The banner is the text from its first printable character to the first zero byte.
-/
namespace HostSurvey.Probe.Telnet

open HostSurvey.Net HostSurvey.Text

/-- Begins a command. -/
def iac : UInt8 := 0xff
/-- Asks the other side not to use an option. -/
def dont : UInt8 := 0xfe
/-- Asks the other side to use an option. -/
def doOption : UInt8 := 0xfd
/-- Declines to use an option. -/
def wont : UInt8 := 0xfc
/-- Offers to use an option. -/
def will : UInt8 := 0xfb
/-- Begins the details of an option. -/
def sb : UInt8 := 0xfa
/-- Ends the details of an option. -/
def se : UInt8 := 0xf0

/-- What is sent once, after the first read: refusals, and two offers that servers wait for (`PROBE`). -/
def opening : Bytes := [
  iac, wont, 0x25, iac, doOption, 0x03, iac, wont, 0x18, iac, wont, 0x1f, iac, wont, 0x20,
  iac, will, 0x22]

/-- Whether a command is about an option. -/
def isOffer (command : UInt8) : Bool :=
  command = will || command = wont || command = doOption || command = dont

/-- The command that declines another one. -/
def refusal (command : UInt8) : UInt8 :=
  if command = will ∨ command = wont then dont else wont

/-- What follows the end of the details of an option. -/
def afterDetails : Bytes → Option Bytes
  | a :: b :: rest => if a = iac ∧ b = se then some rest else afterDetails (b :: rest)
  | _ => none

theorem afterDetails_length {bytes rest : Bytes} (h : afterDetails bytes = some rest) :
    rest.length < bytes.length := by
  fun_induction afterDetails bytes with
  | case1 a b tail _ =>
    injection h with h
    subst h
    exact Nat.lt_of_lt_of_le (Nat.lt_succ_self _) (Nat.le_succ _)
  | case2 a b tail _ ih => exact Nat.lt_succ_of_lt (ih h)
  | case3 => simp at h

/-- What is behind the commands at the front. -/
inductive Tail where
  /-- A command that is not complete, or nothing. -/
  | pending (bytes : Bytes)
  | text (bytes : Bytes)
  deriving Repr, DecidableEq

/-- Reads commands: what is to be answered, and what is behind them. A byte of 128 and more that begins
no command is skipped. -/
def negotiate : Bytes → Bytes × Tail
  | [] => ([], .pending [])
  | b :: rest =>
    if b ≠ iac then
      if b < 0x80 then ([], .text (b :: rest)) else negotiate rest
    else match rest with
      | [] => ([], .pending [b])
      | command :: details =>
        if isOffer command then
          match details with
          | [] => ([], .pending [b, command])
          | option :: more =>
            let (reply, tail) := negotiate more
            (iac :: refusal command :: option :: reply, tail)
        else if command = sb then
          match _h : afterDetails details with
          | none => ([], .pending (b :: command :: details))
          | some more => negotiate more
        else if command = iac then ([], .text (command :: details))
        else negotiate details
termination_by bytes => bytes.length
decreasing_by
  · simp only [List.length_cons]; omega
  · simp only [List.length_cons]; omega
  · have := afterDetails_length _h
    simp only [List.length_cons]; omega
  · simp only [List.length_cons]; omega

/-- A negotiation that is under way. -/
structure Negotiator where
  textFound : Bool
  /-- A command that is not complete. -/
  pending : Bytes
  deriving Repr, DecidableEq

/-- A negotiation that begins (`Negotiator::new`). -/
def Negotiator.fresh : Negotiator := ⟨false, []⟩

/-- What a read led to. -/
inductive Step where
  | needMore (reply : Bytes)
  /-- There was text behind the commands. -/
  | text (reply text : Bytes)
  deriving Repr, DecidableEq

/-- Takes what a read brought (`feed`). -/
def Negotiator.feed (n : Negotiator) (bytes : Bytes) : Step × Negotiator :=
  match negotiate (n.pending ++ bytes) with
  | (reply, .pending left) => (.needMore reply, ⟨n.textFound, left⟩)
  | (reply, .text text) => (.text reply text, ⟨true, []⟩)

/-- Whether a byte is a printable character other than the blank. -/
def isGraphic (b : UInt8) : Bool :=
  0x21 ≤ b && b ≤ 0x7e

/-- The banner in a text (`banner_from`). -/
def bannerOf (text : Bytes) : Option String :=
  match text.dropWhile fun b => !isGraphic b with
  | [] => none
  | shown =>
    let banner := chomp (Utf8.decodeLossy (shown.takeWhile (· ≠ 0)))
    if banner = "" then none else some banner

/-- The most that one read brings. -/
def room : Nat := 4096

/-- How many reads are taken in before the server is given up (`MAX_ROUNDS`). -/
def maxRounds : Nat := 16

/-- Takes in what was read, answers, and reads on. -/
def rounds (target : Endpoint) (time : Elapsed) : Nat → Negotiator → Bytes → Stream → Grab
  | 0, _, _, _ =>
    .failed (.protocol target ("no text after " ++ toString maxRounds ++ " negotiation rounds"))
  | left + 1, n, bytes, stream =>
    match n.feed bytes with
    | (.text _ text, _) => ⟨[], .ok (bannerOf text)⟩
    | (.needMore reply, n) =>
      let sent := if reply.isEmpty then [] else [reply]
      match readSome target time room stream with
      | .error e => ⟨sent, .error e⟩
      | .ok (bytes, stream) =>
        let rest := rounds target time left n bytes stream
        ⟨sent ++ rest.sent, rest.banner⟩

/-- Negotiates with a server until there is text (`telnet::grab`). -/
def grab (target : Endpoint) (time : Elapsed) (peer : Peer) : Grab :=
  .overStream target time peer fun stream =>
    match readSome target time room stream with
    | .error e => .failed e
    | .ok (bytes, stream) =>
      let rest := rounds target time maxRounds .fresh bytes stream
      ⟨opening :: rest.sent, rest.banner⟩

end HostSurvey.Probe.Telnet
