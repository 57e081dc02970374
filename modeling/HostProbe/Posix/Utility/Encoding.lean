import HostProbe.Posix.Utility.Basic
import HostProbe.Posix.Utility.Contents

/-! # Utilities that show bytes

Bytes as letters that every channel lets pass, and as numbers. -/

namespace HostProbe.Posix

open Effect

namespace Base64

def alphabet : Array Char :=
  "ABCDEFGHIJKLMNOPQRSTUVWXYZabcdefghijklmnopqrstuvwxyz0123456789+/".toList.toArray

def letter (n : Nat) : Char := alphabet.getD (n % 64) 'A'

def encode : List Char → List Char
  | a :: b :: c :: s =>
    let n := a.toNat * 65536 + b.toNat * 256 + c.toNat
    letter (n / 262144) :: letter (n / 4096) :: letter (n / 64) :: letter n :: encode s
  | [a, b] =>
    let n := a.toNat * 256 + b.toNat
    [letter (n / 1024), letter (n / 16), letter (n * 4), '=']
  | [a] => [letter (a.toNat / 4), letter (a.toNat * 16), '=', '=']
  | [] => []

def decode : List Char → List Char × Bool
  | [] => ([], true)
  | a :: b :: '=' :: '=' :: s =>
    match alphabet.idxOf? a, alphabet.idxOf? b with
    | some x, some y => ([byteOf (x * 4 + y / 16)], s.isEmpty)
    | _, _ => ([], false)
  | a :: b :: c :: '=' :: s =>
    match alphabet.idxOf? a, alphabet.idxOf? b, alphabet.idxOf? c with
    | some x, some y, some z => ([byteOf (x * 4 + y / 16), byteOf (y * 16 + z / 4)], s.isEmpty)
    | _, _, _ => ([], false)
  | a :: b :: c :: d :: s =>
    match alphabet.idxOf? a, alphabet.idxOf? b, alphabet.idxOf? c, alphabet.idxOf? d with
    | some x, some y, some z, some w =>
      let (out, ok) := decode s
      (byteOf (x * 4 + y / 16) :: byteOf (y * 16 + z / 4) :: byteOf (z * 64 + w) :: out, ok)
    | _, _, _, _ => ([], false)
  | [a, b, c] =>
    match alphabet.idxOf? a, alphabet.idxOf? b, alphabet.idxOf? c with
    | some x, some y, some z => ([byteOf (x * 4 + y / 16), byteOf (y * 16 + z / 4)], false)
    | _, _, _ => ([], false)
  | [a, b] =>
    match alphabet.idxOf? a, alphabet.idxOf? b with
    | some x, some y => ([byteOf (x * 4 + y / 16)], false)
    | _, _ => ([], false)
  | [_] => ([], false)

end Base64

def chunks (width : Nat) (s : List Char) : List (List Char) :=
  if width = 0 then (if s.isEmpty then [] else [s])
  else (List.range ((s.length + width - 1) / width)).map fun (k : Nat) =>
    (s.drop (k * width)).take width

namespace Invocation

variable (i : Invocation)

def base64 : Effect :=
  i.withOptions 1 "di" "w" [("decode", 'd'), ("ignore-garbage", 'i'), ("wrap", 'w')]
    fun (options : Options) paths =>
      let (e, text) := i.joined (paths.take 1)
      if options.has 'd' then
        let (out, ok) := Base64.decode (text.filter (· != '\n'))
        if ok then e.write out else (e.write out).complain 1 (i.name ++ ": invalid input")
      else
        match natOf? ((options.valueOf? 'w').getD "76").toList with
        | none => i.failing 1 ("invalid wrap size: " ++ shownArgument ((options.valueOf? 'w').getD ""))
        | some width =>
          e.write ((chunks width (Base64.encode text)).flatMap fun l =>
            if width = 0 then l else l ++ ['\n'])

structure DumpFormat where
  size : Nat
  width : Nat
  shown : List Char → List Char

def groupValue (s : List Char) : Nat := s.foldr (fun c n => n * 256 + c.toNat) 0

def numberFormat (kind : Char) (size : Nat) : DumpFormat :=
  let digits := match kind with
    | 'o' => (8 * size + 2) / 3
    | 'x' => 2 * size
    | _ => (Nat.toDigits 10 (Nat.pow 256 size - 1)).length
  let zeros (ds : List Char) : List Char := List.replicate (digits - ds.length) '0' ++ ds
  let shown (s : List Char) : List Char :=
    let n := groupValue s
    match kind with
    | 'o' => zeros (Nat.toDigits 8 n)
    | 'x' => zeros (Nat.toDigits 16 n)
    | 'u' => Nat.toDigits 10 n
    | _ =>
      let limit := Nat.pow 256 size
      if limit ≤ 2 * n then '-' :: Nat.toDigits 10 (limit - n) else Nat.toDigits 10 n
  ⟨size, (match kind with
    | 'd' => (Nat.toDigits 10 (Nat.pow 256 size / 2)).length + 1
    | _ => digits) + 1, shown⟩

def letterFormat : DumpFormat :=
  ⟨1, 4, fun s => s.flatMap fun c =>
    match c with
    | '\x00' => ['\\', '0']
    | '\x07' => ['\\', 'a']
    | '\x08' => ['\\', 'b']
    | '\t' => ['\\', 't']
    | '\n' => ['\\', 'n']
    | '\x0b' => ['\\', 'v']
    | '\x0c' => ['\\', 'f']
    | '\r' => ['\\', 'r']
    | c =>
      if 32 ≤ c.toNat ∧ c.toNat < 127 then [c]
      else
        let ds := Nat.toDigits 8 c.toNat
        List.replicate (3 - ds.length) '0' ++ ds⟩

def dumpFormat? (type : List Char) : Option DumpFormat :=
  match type with
  | ['c'] => some letterFormat
  | [k] => if "odux".toList.contains k then some (numberFormat k 4) else none
  | [k, n] =>
    if "odux".toList.contains k then
      match n with
      | '1' => some (numberFormat k 1)
      | '2' => some (numberFormat k 2)
      | '4' => some (numberFormat k 4)
      | '8' => some (numberFormat k 8)
      | 'C' => some (numberFormat k 1)
      | 'S' => some (numberFormat k 2)
      | 'I' => some (numberFormat k 4)
      | 'L' => some (numberFormat k 8)
      | _ => none
    else none
  | _ => none

def od : Effect :=
  i.withOptions 1 "bcdoxsiv" "AtNjw" [("address-radix", 'A'), ("format", 't'), ("read-bytes", 'N'),
      ("skip-bytes", 'j'), ("output-duplicates", 'v')] fun (options : Options) paths =>
      let (e, text) := i.joined paths
      let number (letter : Char) : Option Nat :=
        (options.valueOf? letter).bind fun v => sizeOf? v.toList
      let skipped := (number 'j').getD 0
      let text := text.drop skipped
      let text := match number 'N' with
        | some n => text.take n
        | none => text
      let formats := options.filterMap fun o => match o.1 with
        | 't' => some (dumpFormat? o.2.toList)
        | 'b' => some (some (numberFormat 'o' 1))
        | 'c' => some (some letterFormat)
        | 'd' => some (some (numberFormat 'u' 2))
        | 'o' => some (some (numberFormat 'o' 2))
        | 'x' => some (some (numberFormat 'x' 2))
        | 's' => some (some (numberFormat 'd' 2))
        | 'i' => some (some (numberFormat 'd' 4))
        | _ => none
      match formats.mapM id with
      | none => i.failing 1 ("invalid type string " ++ shownArgument ((options.valueOf? 't').getD ""))
      | some formats =>
        let formats := if formats.isEmpty then [numberFormat 'o' 2] else formats
        let address (n : Nat) : List Char :=
          let ds (base : Nat) : List Char := Nat.toDigits base n
          let filled (width : Nat) (ds : List Char) : List Char :=
            List.replicate (width - ds.length) '0' ++ ds
          match options.valueOf? 'A' with
          | some "n" => []
          | some "d" => filled 7 (ds 10)
          | some "x" => filled 6 (ds 16)
          | _ => filled 7 (ds 8)
        let perByte := (formats.map fun f => (f.width + f.size - 1) / f.size).foldl max 0
        let row (line : List Char × Nat) : List Char :=
          (formats.zipIdx.flatMap fun (f, k) =>
            let width := if formats.length = 1 then f.width else perByte * f.size
            (if k = 0 then address (skipped + 16 * line.2)
              else List.replicate (address 0).length ' ') ++
              ((chunks f.size line.1).flatMap fun g =>
                let s := f.shown g
                List.replicate (width - s.length) ' ' ++ s) ++ ['\n'])
        let rows := (chunks 16 text).zipIdx
        let isRepeated (line : List Char × Nat) : Bool :=
          !options.has 'v' && line.2 ≠ 0 && line.1.length = 16 &&
            (rows[line.2 - 1]?.map (·.1)) = some line.1
        let out := rows.flatMap fun line =>
          if isRepeated line then
            (if rows[line.2 - 1]?.any isRepeated then [] else ['*', '\n'])
          else row line
        let last := address (skipped + text.length)
        e.write (out ++ (if last.isEmpty then [] else last ++ ['\n']))

end Invocation

end HostProbe.Posix
