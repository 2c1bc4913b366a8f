import MockApi.Generator.Basic
import MockApi.Words.Contact
import MockApi.Words.FirstName
import MockApi.Words.LastName
import MockApi.Words.Latin
import MockApi.Words.Place

/-!
Generators of names, addresses and other details of people and companies, put together from the
tables of words.
-/
namespace MockApi.Generator

open Words
open Draw (word byte below belowSmall pick chance)

def lowerFirst : Draw String := String.toLower <$> pick firstNames

def fullName : Draw String := do
  let first ← pick firstNames
  let last ← pick lastNames
  return first ++ " " ++ last

def emailAddress : Draw String := do
  let first ← lowerFirst
  let domain ← pick #["com", "net", "org"]
  return first ++ "@example." ++ domain

/-- A given name alone, behind a word, with a number behind it, or before a word. -/
def userName : Draw String := do
  match ← byte with
  | 0 => lowerFirst
  | 1 | 2 => do
      let filler ← pick latin
      let first ← lowerFirst
      return filler ++ "." ++ first
  | 3 | 4 => do
      let first ← lowerFirst
      let number ← byte
      return first ++ toString number
  | _ => do
      let first ← lowerFirst
      let filler ← pick latin
      return first ++ "_" ++ filler

def digit : Draw Char := do return Nat.digitChar (← below .word 10)

/-- Fills a format: a number sign is any digit, a caret one above zero. -/
def fillDigits (format : String) : Draw String := do
  let filled ← format.toList.mapM fun c =>
    match c with
    | '^' => do return Nat.digitChar (1 + (← below .word 9))
    | '#' => digit
    | other => return other
  return String.ofList filled

def phoneNumber : Draw String := do fillDigits (← pick phoneFormats)

def postalCode : Draw String := do fillDigits (← pick postcodeFormats)

/-- A name, given or family by the top bit of a word, and a kind of street. -/
def streetName : Draw String := do
  let given := (← word) >>> 31 == 1
  let name ← if given then pick firstNames else pick lastNames
  let kind ← pick streetSuffixes
  return name ++ " " ++ kind

def cityName : Draw String := do
  match ← belowSmall 5 with
  | 0 => do
      let direction ← pick cityPrefixes
      let first ← pick firstNames
      let last ← pick lastNames
      let ending ← pick citySuffixes
      return String.intercalate " " [direction, first, last, ending]
  | 1 => do
      let first ← pick firstNames
      let ending ← pick citySuffixes
      return first ++ " " ++ ending
  | _ => do
      let last ← pick lastNames
      let ending ← pick citySuffixes
      return last ++ " " ++ ending

def companyName : Draw String := do
  let form ← below .word 2
  let one ← pick lastNames
  let two ← pick lastNames
  let suffix ← pick companySuffixes
  return if form = 0 then one ++ " " ++ suffix else one ++ " and " ++ two ++ " " ++ suffix

def hexByte (n : Nat) : List Char := [Nat.digitChar (n / 16), Nat.digitChar (n % 16)]

/-- Bytes in hexadecimal, with dashes behind the fourth, sixth, eighth and tenth. -/
def uuidText (bytes : List Nat) : String :=
  let part (start count : Nat) := (bytes.drop start |>.take count).flatMap hexByte
  String.intercalate "-" ([(0, 4), (4, 2), (6, 2), (8, 2), (10, 6)].map fun (start, count) =>
    String.ofList (part start count))

/-- Sixteen random bytes, marked as version four of the standard variant. -/
def uuid : Draw String := do
  let bytes ← (List.range 16).mapM fun _ => byte
  let marked := bytes.mapIdx fun i b =>
    if i = 6 then b % 16 + 0x40 else if i = 8 then b % 64 + 0x80 else b
  return uuidText marked

def personal : List Generator :=
  [ofText "uuid" uuid, ofText "firstName" (pick firstNames), ofText "lastName" (pick lastNames),
    ofText "fullName" fullName, ofText "title" (pick titles), ofText "username" userName,
    ofText "email" emailAddress, ofText "phone" phoneNumber, ofText "streetAddress" streetName,
    ofText "city" cityName, ofText "state" (pick states), ofText "country" (pick countries),
    ofText "postalCode" postalCode, ofText "companyName" companyName, ofText "word" (pick latin)]

end MockApi.Generator
