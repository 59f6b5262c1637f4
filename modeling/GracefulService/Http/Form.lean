import GracefulService.Number.Digits
import GracefulService.Text.Blank
import GracefulService.Text.Octets

/-!
# Form data

The names and values in the query of a target. Pairs stand between ampersands, a plus sign is a space,
and percent signs escape octets; what is no escape is kept as it stands.
-/

namespace GracefulService.Http

/-- The octet that two hexadecimal digits spell. -/
def hexOctet? (high low : Nat) : Option Nat :=
  Number.readHex? [Char.ofNat high, Char.ofNat low]

/-- The octets behind their percent escapes. -/
def unescapeOctets : List Nat → List Nat
  | 0x25 :: high :: low :: rest =>
    match hexOctet? high low with
    | some octet => octet :: unescapeOctets rest
    | none => 0x25 :: unescapeOctets (high :: low :: rest)
  | octet :: rest => octet :: unescapeOctets rest
  | [] => []

/-- A name or value as it was meant. -/
def unescape (cs : List Char) : String :=
  let spaced := cs.map fun c => if c = '+' then ' ' else c
  String.ofList (Text.readOctets (unescapeOctets (Text.octets (String.ofList spaced))))

/-- One pair; without an equals sign the value is empty. -/
def formPair (cs : List Char) : String × String :=
  match Text.splitFirst '=' cs with
  | some (name, value) => (unescape name, unescape value)
  | none => (unescape cs, "")

/-- All pairs of a query, in order. -/
def formPairs (query : String) : List (String × String) :=
  ((Text.splitAt '&' query.toList).filter fun cs => !cs.isEmpty).map formPair

/-- The value of a name in a query; the last one counts. -/
def formValue? (name : String) (query : Option String) : Option String :=
  match query with
  | some query => (formPairs query).reverse.lookup name
  | none => none

end GracefulService.Http
