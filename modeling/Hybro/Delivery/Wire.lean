import Mathlib.Data.List.Sort
import Mathlib.Data.String.Basic
import Hybro.Library.JsonTrees
import Hybro.Library.Pieces

/-! # Frames on the wire

The route writes every frame of a connection as one event of a text stream. The browser reads the
stream in pieces: it cuts the text into blocks, joins the data lines of a block, parses them and
hands on what has the envelope of a frame.
-/

namespace Hybro.Delivery

open JsonText Pieces

/-! ## The route -/

/-- `data: {text}` and the empty line that ends the event. -/
def eventText (text : String) : List Char :=
  "data: ".toList ++ text.toList ++ ['\n', '\n']

/-- What a connection starts with: the handshake, and the snapshot if one was built. A snapshot is
its `room_seq` and all of its data. -/
def openingFrames (connectionId conversationId : String) (timestamps : String × String)
    (snapshot : Option (Int × Tree)) : List Tree :=
  let connected := Tree.object
    [("type", .text "connected"), ("conversation_id", .text conversationId),
      ("timestamp", .text timestamps.1),
      ("data", .object (("connection_id", .text connectionId) ::
        match snapshot with
        | some (roomSeq, _) => [("room_seq", .int roomSeq)]
        | none => []))]
  match snapshot with
  | none => [connected]
  | some (_, data) =>
      [connected, .object
        [("type", .text "snapshot"), ("conversation_id", .text conversationId),
          ("timestamp", .text timestamps.2), ("data", data)]]

def wireText (frames : List Tree) : List Char :=
  frames.flatMap fun frame => eventText (dumps frame)

/-! ## The browser -/

def isJsSpace (c : Char) : Bool :=
  [9, 10, 11, 12, 13, 32, 0xA0, 0x1680, 0x2028, 0x2029, 0x202F, 0x205F, 0x3000, 0xFEFF].contains
    c.toNat || (0x2000 ≤ c.toNat && c.toNat ≤ 0x200A)

def lineData (line : List Char) : Option (List Char) :=
  if "data: ".toList.isPrefixOf line then some (line.drop 6)
  else if "data:".toList.isPrefixOf line then some (line.drop 5)
  else none

def addLine (data line : List Char) : List Char :=
  match lineData line with
  | some value => data ++ (if data = [] then [] else ['\n']) ++ value
  | none => data

def blockData (block : List Char) : List Char :=
  (split ['\n'] block).foldl addLine []

def blockMessage (block : List Char) : Option (List Char) :=
  if block.all isJsSpace then none
  else if blockData block = [] then none
  else some (blockData block)

/-- `processSSEBuffer`: the text after the last empty line is kept. -/
def processSSEBuffer : Reader (List Char) Char (List Char) := fun buffer piece =>
  let (remainder, blocks) := readParts ['\n', '\n'] buffer piece
  (remainder, blocks.filterMap blockMessage)

mutual

/-- `JSON.parse` knows no `NaN` and no infinities. -/
def isFiniteJson : Json → Bool
  | .nonFinite => false
  | .array items => areFiniteItems items
  | .object members => areFiniteMembers members
  | _ => true

def areFiniteItems : List Json → Bool
  | [] => true
  | item :: items => isFiniteJson item && areFiniteItems items

def areFiniteMembers : List (String × Json) → Bool
  | [] => true
  | (_, value) :: members => isFiniteJson value && areFiniteMembers members

end

/-- The double next to a natural number; of two that are as near, the one with the even
significand. -/
def nearestDouble (value : Nat) : Nat :=
  let unit := 2 ^ (value.log2 - 52)
  let low := value / unit
  let rest := value % unit
  if 2 * rest < unit ∨ 2 * rest = unit ∧ low % 2 = 0 then low * unit else (low + 1) * unit

/-- Beyond the largest double is `Infinity`. -/
def jsNumber (value : Int) : Json :=
  if (nearestDouble value.natAbs).log2 < 1024 then
    .int (value.sign * nearestDouble value.natAbs)
  else .nonFinite

mutual

def jsValue : Json → Json
  | .int value => jsNumber value
  | .array items => .array (jsItems items)
  | .object members => .object (jsMembers members)
  | value => value

def jsItems : List Json → List Json
  | [] => []
  | item :: items => jsValue item :: jsItems items

def jsMembers : List (String × Json) → List (String × Json)
  | [] => []
  | (key, value) :: members => (key, jsValue value) :: jsMembers members

end

def jsonParse (text : List Char) : Option Json :=
  ((loads (String.ofList text)).filter isFiniteJson).map jsValue

mutual

/-- Every integer of it is a double. -/
def isExact : Tree → Bool
  | .int value => value.natAbs ≤ 2 ^ 53
  | .array items => areExactItems items
  | .object members => areExactMembers members
  | _ => true

def areExactItems : List Tree → Bool
  | [] => true
  | item :: items => isExact item && areExactItems items

def areExactMembers : List (String × Tree) → Bool
  | [] => true
  | (_, value) :: members => isExact value && areExactMembers members

end

/-- The last member with the key counts. -/
def jsonField (members : List (String × Json)) (key : String) : Option Json :=
  members.reverse.lookup key

def isJsonText : Option Json → Bool
  | some (.text _) => true
  | _ => false

def hasSSEFrameEnvelope : Json → Bool
  | .object members =>
      (members.map (·.1)).dedup.insertionSort (· ≤ ·) =
          ["conversation_id", "data", "timestamp", "type"] &&
        isJsonText (jsonField members "type") && isJsonText (jsonField members "timestamp") &&
        isJsonText (jsonField members "conversation_id")
  | _ => false

/-- The frame in the data of a block, if it is handed to `onMessage`. -/
def receivedFrame (data : List Char) : Option Json :=
  (jsonParse data).filter hasSSEFrameEnvelope

def readPiece : Reader (List Char) Char Json := fun buffer piece =>
  let (remainder, messages) := processSSEBuffer buffer piece
  (remainder, messages.filterMap receivedFrame)

/-- `readStream`: the frames that `onMessage` gets, from the decoded pieces of a stream. -/
def readStream (pieces : List (List Char)) : List Json :=
  (readAll readPiece [] pieces).2

end Hybro.Delivery
