import FrontEnd.Token.Scan

/-!
# Using a cursor

All that can be asked of a cursor, in any order: to move on by a character, to look at the next
one, to skip space, to read a word, a number or a string on the spot, or to give tokens. A call
always leaves a cursor, also when the text cannot be read (`ScanCall.run`).
-/

namespace FrontEnd

/-- One use of a cursor. -/
inductive ScanCall
  | advance | peek | skipSpace
  | word | number | string
  | next | drain
  deriving DecidableEq, Repr

/-- What a call gives back. -/
inductive ScanReply
  | nothing
  | char (c? : Option Char)
  | word (text : String)
  | token (found : Except ScanError Scan)
  | tokens (found : Except ScanError (List Token))

namespace ScanCall

/-- **The reply to a call**, and the cursor after it. -/
def run (call : ScanCall) (c : Cursor) : ScanReply × Cursor :=
  match call with
  | advance => (.nothing, c.advance)
  | peek => (.char c.peek?, c)
  | skipSpace => (.nothing, c.skipSpace)
  | word =>
    (.word (String.ofList (c.rest.takeWhile isWordChar)), (c.reading Lexeme.readWord).2)
  | number => let (found, c') := c.reading Lexeme.readNumber; (.token found, c')
  | string => let (found, c') := c.reading Lexeme.readString; (.token found, c')
  | next => let (found, c') := c.next; (.token found, c')
  | drain => (.tokens c.drain.tokens, c.drain.stop)

/-- The replies to calls one after the other, each with the cursor after it. -/
def runAll : List ScanCall → Cursor → List (ScanReply × Cursor)
  | [], _ => []
  | call :: calls, c => call.run c :: runAll calls (call.run c).2

end ScanCall

end FrontEnd
