import Hybro.Library.JsText

/-! # Artifacts of the live buffer

`mergeStreamArtifacts` merges a streamed artifact into the list that is shown. A snapshot of a
text that is already there is merged by the first of the rules of
`mergeStreamingTextSnapshots` that applies.
-/

namespace Hybro.StreamingStore

open JsText

inductive PartKind
  | text
  | file
  | data
  deriving DecidableEq

/-- `payload` is the file or the data of a part. -/
structure ArtifactPart (Payload : Type) where
  kind : PartKind
  text : Option Text := none
  payload : Option Payload := none
  deriving DecidableEq

structure ArtifactData (Payload : Type) where
  artifactId : String
  name : Option String := none
  parts : List (ArtifactPart Payload)
  isStreaming : Option Bool := none
  isSynthetic : Option Bool := none
  deriving DecidableEq

variable {Payload : Type}

def isTextOnlyArtifact (a : ArtifactData Payload) : Bool :=
  !a.parts.isEmpty && a.parts.all (·.kind = .text)

def artifactText (a : ArtifactData Payload) : Text :=
  a.parts.flatMap fun p => p.text.getD []

/-! ## Snapshots of a text -/

/-- The code units of `[.!?,;:]`. -/
def punctuation : Text :=
  [0x2e, 0x21, 0x3f, 0x2c, 0x3b, 0x3a]

def isPunctuationOnlySnapshot (text : Text) : Bool :=
  let trimmed := trim text
  0 < trimmed.length && trimmed.length ≤ 3 && trimmed.all punctuation.contains

/-- The loop from `size` down: the longest beginning of the second text that ends the first. -/
def overlapFrom (existing incoming : Text) : Nat → Nat
  | 0 => 0
  | size + 1 =>
      if endsWith existing (incoming.take (size + 1)) then size + 1
      else overlapFrom existing incoming size

def overlap (existing incoming : Text) : Nat :=
  overlapFrom existing incoming (min existing.length incoming.length)

/-- What follows the sentence punctuation of a disjoint window. -/
def stitchedTail (incoming : Text) : Text :=
  replaceLeadingSpace (incoming.drop 1)

def mergeStreamingTextSnapshots (existing incoming : Text) : Text :=
  if incoming = [] then existing
  else if existing = [] then incoming
  else if isPunctuationOnlySnapshot incoming && incoming.length < existing.length then existing
  else if startsWith incoming existing then incoming
  else if startsWith existing incoming then existing
  else if 0 < overlap existing incoming then
    existing ++ incoming.drop (overlap existing incoming)
  else if includes existing incoming then existing
  else if includes incoming existing then incoming
  else if existing.length ≤ 48 ∧ incoming.length ≤ 48 then
    if existing.length ≤ incoming.length then incoming else existing ++ incoming
  else if startsWith incoming [0x2e] then
    if endsWith existing [0x20] || endsWith existing [0x0a] then existing ++ incoming
    else existing ++ stitchedTail incoming
  else existing ++ incoming

/-! ## Artifacts -/

/-- One round of the loop over the new parts: a text is appended to a last text. -/
def mergeTextPart (result : List (ArtifactPart Payload)) (part : ArtifactPart Payload) :
    List (ArtifactPart Payload) :=
  match result.getLast? with
  | some last =>
      if part.kind = .text ∧ last.kind = .text then
        result.dropLast ++ [{ last with text := some (last.text.getD [] ++ part.text.getD []) }]
      else result ++ [part]
  | none => result ++ [part]

def mergeTextParts (existingParts newParts : List (ArtifactPart Payload)) :
    List (ArtifactPart Payload) :=
  newParts.foldl mergeTextPart existingParts

/-- `isStreaming: incoming.isStreaming ?? list[idx].isStreaming`, beside the parts. -/
def ArtifactData.withParts (current incoming : ArtifactData Payload)
    (parts : List (ArtifactPart Payload)) : ArtifactData Payload :=
  { current with
    parts := parts
    isStreaming := incoming.isStreaming <|> current.isStreaming }

/-- The branch for an artifact that the list holds at `idx`. -/
def mergeHeld (list : List (ArtifactData Payload)) (idx : Nat) (current incoming : ArtifactData Payload)
    (append : Bool) : List (ArtifactData Payload) :=
  if append then list.set idx (current.withParts incoming (mergeTextParts current.parts incoming.parts))
  else if isTextOnlyArtifact incoming && isTextOnlyArtifact current then
    let mergedText :=
      mergeStreamingTextSnapshots (artifactText current) (artifactText incoming)
    if mergedText = artifactText current then list
    else list.set idx (current.withParts incoming [{ kind := .text, text := some mergedText }])
  else list.set idx incoming

/-- `incoming.name && isTextOnlyArtifact(incoming)`, then the first artifact of that name. -/
def sameNameIdx (list : List (ArtifactData Payload)) (incoming : ArtifactData Payload) : Option Nat :=
  if incoming.name.any (· ≠ "") && isTextOnlyArtifact incoming then
    list.findIdx? fun a => a.name = incoming.name && isTextOnlyArtifact a
  else none

def mergeStreamArtifacts (existing : Option (List (ArtifactData Payload)))
    (incoming : ArtifactData Payload) (append : Bool) : List (ArtifactData Payload) :=
  let list := existing.getD []
  match list.findIdx? (·.artifactId = incoming.artifactId) with
  | some idx =>
      match list[idx]? with
      | some current => mergeHeld list idx current incoming append
      | none => list
  | none =>
      match sameNameIdx list incoming with
      | some idx =>
          match list[idx]? with
          | some current =>
              if startsWith (artifactText incoming) (artifactText current) then list.set idx incoming
              else if startsWith (artifactText current) (artifactText incoming) then list
              else list ++ [incoming]
          | none => list ++ [incoming]
      | none => list ++ [incoming]

end Hybro.StreamingStore
