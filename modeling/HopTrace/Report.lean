import HopTrace.Address.Text
import HopTrace.Family
import HopTrace.Text.Column
import HopTrace.Trace

/-!
# The report of a trace

One line for each event and two at most for the summary. A hop line opens with the hop
number, which ends in a question mark unless the hop is confirmed; the responder follows
in a column that no text can fill completely, so that one blank at least comes after it,
then the round trip time and what the status adds. An unexpected error adds nothing to
its line and is reported beside it.
-/
namespace HopTrace.Report

/-- The column of the responder. -/
def hostColumn : Nat := 52

/-- The column of the responder when it is the local host. -/
def localColumn : Nat := 32

/-- The text that identifies a responder. -/
def hostText (address : Option IpAddress) (name : Option String) (mode : AddressMode) : String :=
  let ip := (address.map IpAddress.text).getD unresolvedHost
  let name := name.getD unresolvedHost
  match mode with
  | .host => name
  | .ip => ip
  | .hostIp => name ++ " (" ++ ip ++ ")"
  | .ipHost => ip ++ " (" ++ name ++ ")"

/-- At least one blank follows the text, however long it is. -/
def inHostColumn (text : String) : String :=
  text ++ Column.blanks (hostColumn - min text.length (hostColumn - 1))

def hopNumber (h : Hop) : String :=
  match h.confirmed with
  | some ttl => Column.number 2 ttl.toNat ++ ":  "
  | none => Column.number 2 h.ttl.toNat ++ "?: "

def responder (h : Hop) (mode : AddressMode) : String :=
  match h.responder with
  | .local =>
    Column.number 2 h.ttl.toNat ++ "?: " ++ Column.alignLeft localColumn "[LOCALHOST]" ++ " "
  | .remote address name => hopNumber h ++ inHostColumn (hostText address name mode)
  | .unknown => hopNumber h

/-- Milliseconds with three decimals, cut off below the microsecond. -/
def rtt (d : Span) : String :=
  Column.number 3 (d.micros / 1000) ++ "." ++ Column.zeroFilled 3 (d.micros % 1000) ++ "ms "

def status : HopStatus → String
  | .hop (some hops) => "asymm " ++ Column.number 2 hops.toNat ++ " "
  | .hop none => ""
  | .pathMtu mtu => "pmtu " ++ toString mtu.toNat
  | .reached => "reached"
  | .protocolError => "!P"
  | .hostUnreachable => "!H"
  | .netUnreachable => "!N"
  | .accessDenied => "!A"
  | .netError _ => ""

def hopLine (h : Hop) (mode : AddressMode) : String :=
  let timing := match h.rtt with
    | none => ""
    | some d =>
      rtt d ++ if h.broken then "(This broken router returned corrupted payload) " else ""
  responder h mode ++ timing ++ status h.status

def eventLine (e : Event) (mode : AddressMode) : String :=
  match e with
  | .hop h => hopLine h mode
  | .noInfo => "no info"
  | .replyReceived ttl => Column.number 2 ttl.toNat ++ "?: reply received 8)"
  | .sendFailed ttl => Column.number 2 ttl.toNat ++ ":  send failed"
  | .noReply ttl => Column.number 2 ttl.toNat ++ ":  no reply"

/-- What an event adds to the diagnostics. -/
def diagnostic (e : Event) : Option String :=
  match e with
  | .hop { status := .netError errno, .. } => some ("NET ERROR: " ++ errno.message)
  | _ => none

def summary (s : Summary) : String :=
  let tooMany := if s.completion = .tooManyHops
    then "     Too many hops: pmtu " ++ toString s.pmtu.toNat ++ "\n" else ""
  let there := match s.hopsTo with
    | some hops => "hops " ++ toString hops.toNat ++ " "
    | none => ""
  let back := match s.hopsFrom with
    | some hops => "back " ++ toString hops.toNat ++ " "
    | none => ""
  tooMany ++ "     Resume: pmtu " ++ toString s.pmtu.toNat ++ " " ++ there ++ back ++ "\n"

/-- Text written to the two output streams of a program. -/
structure Output where
  out : String
  err : String
  deriving DecidableEq, Repr, Inhabited

namespace Output

def empty : Output := ⟨"", ""⟩

def print (o : Output) (text : String) : Output := { o with out := o.out ++ text }

def complain (o : Output) (text : String) : Output := { o with err := o.err ++ text }

/-- The output after one more event. -/
def event (o : Output) (e : Event) (mode : AddressMode) : Output :=
  let o := o.print (eventLine e mode ++ "\n")
  match diagnostic e with
  | some text => o.complain (text ++ "\n")
  | none => o

def summary (o : Output) (s : Summary) : Output := o.print (Report.summary s)

end Output

end HopTrace.Report
