/-
How a reviewer is configured.

A chain is named by a number, in decimal or after "0x" in hexadecimal, and
written as four bytes; zero names no chain. The window is a number of
seconds in the range the bridge accepts. Blanks around either are ignored.
The texts come from variables, some of which a file of settings may set;
a variable that is set outside wins over the file.
-/
import TokenBridge.Bytes
import TokenBridge.ReviewWindow
import TokenBridge.Text.Assignments
import TokenBridge.Text.Blank
import TokenBridge.Text.Numeral

namespace TokenBridge.Reviewer

structure Config where
  thisChain : ChainId
  /-- The review window of the bridge, in seconds. -/
  window : UInt64
  /-- Tells one canceler from another. -/
  cancelerId : String
deriving DecidableEq

/-- Why a configuration is refused. -/
inductive ConfigError
  | missingChainId
  | badChainId (text : String)
  | zeroChainId
  | badWindow (text : String)
  | windowOutOfRange (seconds : UInt64)
  /-- A variable was to hold the zero character, which ends the text of a variable. -/
  | zeroCharacter
deriving DecidableEq

/-- The words of a refusal; one cause has none. -/
def ConfigError.message : ConfigError → Option String
  | .missingChainId => some "VERIFIER_THIS_CHAIN_ID required"
  | .badChainId text => some s!"Invalid chain ID: {text}"
  | .zeroChainId => some "Chain ID must be non-zero"
  | .badWindow text => some s!"Invalid VERIFIER_CANCEL_WINDOW_SECS: {text}"
  | .windowOutOfRange seconds =>
    some s!"VERIFIER_CANCEL_WINDOW_SECS out of range: {seconds.toNat}"
  | .zeroCharacter => none

/-- How many numbers fit in four bytes, 2^32. -/
abbrev chainLimit : Nat := 0x100000000

/-- The number of a chain, in either base. -/
def chainNumber? : List Char → Option Nat
  | '0' :: 'x' :: digits => Text.readBelow? 16 chainLimit digits
  | digits => Text.readBelow? 10 chainLimit digits

/-- The chain that a text names. -/
def readChainId (text : String) : Except ConfigError ChainId :=
  let text := Text.trim text
  match chainNumber? text.toList with
  | none => .error (.badChainId text)
  | some n => if n = 0 then .error .zeroChainId else .ok (Bytes.ofNat 4 n)

/-- The window that a text gives, or the usual one where there is no text. -/
def readWindow : Option String → Except ConfigError UInt64
  | none => .ok ReviewWindow.defaultLength
  | some text =>
    match Text.readBelow? 10 word64Limit (Text.trimChars text.toList) with
    | none => .error (.badWindow text)
    | some n =>
      let seconds := UInt64.ofNat n
      if ReviewWindow.isValid seconds then .ok seconds else .error (.windowOutOfRange seconds)

/-- The configuration that texts give; the chain is read first. -/
def Config.ofTexts (thisChain : String) (window : Option String) (cancelerId : String) :
    Except ConfigError Config :=
  match readChainId thisChain with
  | .error e => .error e
  | .ok chain =>
    match readWindow window with
    | .error e => .error e
    | .ok seconds => .ok ⟨chain, seconds, cancelerId⟩

-- =============================================================== the environment

/-- The configuration that variables give, those set outside and those of a file of settings. A
reviewer that is given no name is named for its process. -/
def Config.load (outside : List (String × String)) (file : Option String) (process : String) :
    Except ConfigError Config :=
  let environment := outside ++ (file.map (Text.readAssignments outside)).getD []
  if environment.any fun v => v.2.toList.contains '\x00' then .error .zeroCharacter
  else match environment.lookup "VERIFIER_THIS_CHAIN_ID" with
    | none => .error .missingChainId
    | some chain =>
      Config.ofTexts chain (environment.lookup "VERIFIER_CANCEL_WINDOW_SECS")
        ((environment.lookup "VERIFIER_CANCELER_ID").getD s!"verifier-{process}")

end TokenBridge.Reviewer
