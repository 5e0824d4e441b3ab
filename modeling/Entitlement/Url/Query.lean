import Entitlement.Text.Percent
import Entitlement.Text.Utf8

/-!
# Queries of URLs

A query as pairs of names and values, with a plus for each blank. What is no text in it is replaced,
so every query can be read.
-/

namespace Entitlement.Url

def readComponent (text : List Char) : String :=
  let plain := text.map fun c => if c == '+' then ' ' else c
  String.ofList (Text.readLossy (Text.escapedBytes plain))

/-- The name ends with the first equality sign. -/
def readPair (text : List Char) : String × String :=
  (readComponent (text.takeWhile (· ≠ '=')),
    readComponent ((text.dropWhile (· ≠ '=')).drop 1))

/-- The pairs between ampersands; empty ones are passed over. -/
def readPairs (query : List Char) : List (String × String) :=
  ((query.splitOn '&').filter (!·.isEmpty)).map readPair

end Entitlement.Url
