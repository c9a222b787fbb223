import VibeDPN.Engine.Learning
import VibeDPN.Lib.Inet
import VibeDPN.Lib.Lines

namespace VibeDPN

open Text Inet

def pageLimit : Nat := 200

structure LogRecord where
  event : DnsEvent
  stamp : String
  qtype : String
  cached : Bool
  addresses : List String
deriving DecidableEq

def field (l : List Char) (least most : Nat) : Option Nat :=
  if l ≠ [] ∧ l.length ≤ 2 ∧ l.all isDigit ∧ least ≤ digits l ∧ digits l ≤ most then some (digits l)
  else none

def isLeap (year : Nat) : Bool := year % 4 = 0 && (year % 100 ≠ 0 || year % 400 = 0)

def monthDays (year : Nat) : List Nat :=
  [31, if isLeap year then 29 else 28, 31, 30, 31, 30, 31, 31, 30, 31, 30, 31]

-- the days before a date, from the first of January of the year 1
def daysBefore (year month day : Nat) : Nat :=
  let y := year - 1
  365 * y + y / 4 - y / 100 + y / 400 + ((monthDays year).take (month - 1)).sum + (day - 1)

def epochDays : Nat := 719162

-- a day of one digit may stand behind a blank
def dayField (l : List Char) : Option Nat :=
  match l with
  | [' ', c] => field [c] 1 9
  | _ => field l 1 31

def yearField (l : List Char) : Option Nat :=
  if l.length = 4 ∧ l.all isDigit ∧ 1 ≤ digits l then some (digits l) else none

-- timegm(strptime(text, "%Y-%m-%dT%H:%M:%S"))
def wholeTime (l : List Char) : Option Int :=
  match l.splitOn '-' with
  | [y, m, rest] =>
    match rest.splitOnP (fun c => c = 'T' || c = 't') with
    | [d, clock] =>
      match clock.splitOn ':' with
      | [h, mi, s] => do
        let year ← yearField y
        let month ← field m 1 12
        let day ← dayField d
        let hour ← field h 0 23
        let minute ← field mi 0 59
        let second ← field s 0 61
        if day ≤ (monthDays year).getD (month - 1) 0 then
          some ((((daysBefore year month day : Int) - epochDays) * 24 + hour) * 3600 +
            minute * 60 + second)
        else none
      | _ => none
    | _ => none
  | _ => none

def timeParts (l : List Char) : List Char × List Char :=
  (l.takeWhile (· ≠ '.'), (l.dropWhile (· ≠ '.')).drop 1)

def wholeNumber (l : List Char) : Option Int :=
  if (l.splitOn '_').all (fun part => part ≠ [] && part.all isDigit) then
    some (digits (l.filter isDigit))
  else none

-- int() of a text
def intText (l : List Char) : Option Int :=
  match stripList isSpace l with
  | '-' :: l => (wholeNumber l).map fun n => -n
  | '+' :: l => wholeNumber l
  | l => wholeNumber l

def microDigits (fraction : List Char) : List Char := (fraction ++ List.replicate 6 '0').take 6

def parseTime (stamp : String) : Except String Rat :=
  if endsWith stamp "Z" then
    let parts := timeParts stamp.toList.dropLast
    match wholeTime parts.1 with
    | none => .error (quoted stamp ++ " is not a time of the query log")
    | some seconds =>
      match if parts.2 = [] then some 0 else intText (microDigits parts.2) with
      | none => .error (quoted stamp ++ " is not a time of the query log")
      | some micros => .ok (seconds + micros / 1000000)
  else .error (quoted stamp ++ " is not a UTC time")

-- one entry of the data list; without a usable question there is no record of it
structure LogItem where
  client : String := ""
  time : String := ""
  question : Option (String × String) := none
  cached : Bool := false
  answers : List (String × String) := []
deriving DecidableEq

def LogItem.addresses (item : LogItem) : List String :=
  (item.answers.filter fun answer => answer.1 = "A" ∨ answer.1 = "AAAA").map Prod.snd

def parseItem (item : LogItem) : Except String (Option LogRecord) :=
  match item.question with
  | none => .ok none
  | some (name, qtype) =>
    match parseTime item.time with
    | .error e => .error e
    | .ok time => .ok (some
        { event := { client := item.client, name := name, time := time }
          stamp := item.time
          qtype := qtype
          cached := item.cached
          addresses := item.addresses })

-- the body of a page; none where it has no data list
def parsePage (body : Option (List LogItem)) : Except String (List LogRecord) :=
  match body with
  | none => .error "the query log has no data list"
  | some data => (data.mapM parseItem).map fun found => found.filterMap id

-- oldest first, and of equal times in the order given
def sortRecords (records : List LogRecord) : List LogRecord :=
  records.insertionSort fun a b => a.event.time ≤ b.event.time

def newerThan (records : List LogRecord) (lastStamp : Option String) :
    Except String (List LogRecord) :=
  match lastStamp with
  | none => .ok (sortRecords records)
  | some stamp =>
    match parseTime stamp with
    | .error e => .error e
    | .ok last => .ok (sortRecords (records.filter fun r => last < r.event.time))

theorem digits_append (a b : List Char) : digits (a ++ b) = digits a * 10 ^ b.length + digits b := by
  induction b using List.reverseRecOn with
  | nil => simp [digits]
  | append_singleton b c ih =>
    rw [← List.append_assoc]
    simp only [digits, List.foldl_append, List.foldl_cons, List.foldl_nil, List.length_append,
      List.length_singleton] at ih ⊢
    rw [ih, Nat.pow_succ]
    ring

theorem digit_toNat {c : Char} (h : isDigit c = true) : 48 ≤ c.toNat ∧ c.toNat ≤ 57 := by
  rw [isDigit, Bool.and_eq_true, decide_eq_true_eq, decide_eq_true_eq] at h
  exact h

theorem digits_lt {l : List Char} (h : l.all isDigit = true) : digits l < 10 ^ l.length := by
  induction l using List.reverseRecOn with
  | nil => simp [digits]
  | append_singleton l c ih =>
    rw [List.all_append, Bool.and_eq_true] at h
    have hc := digit_toNat (List.all_eq_true.mp h.2 c (by simp))
    have hl := ih h.1
    rw [digits_append, List.length_append, List.length_singleton, Nat.pow_succ]
    simp only [digits, List.foldl_cons, List.foldl_nil] at hl ⊢
    omega

theorem intText_digits {l : List Char} (hne : l ≠ []) (h : l.all isDigit = true) :
    intText l = some (digits l : Int) := by
  have hd : ∀ c ∈ l, isDigit c = true := List.all_eq_true.mp h
  have hs : stripList isSpace l = l := by
    have hno : ∀ c ∈ l, isSpace c = false := by
      intro c hc
      have hn := digit_toNat (hd c hc)
      rw [← Bool.not_eq_true]
      simp only [isSpace, Bool.or_eq_true, Bool.and_eq_true, decide_eq_true_eq]
      omega
    exact stripList_eq_self (fun hl => hno _ (List.head_mem hl)) fun hl => hno _ (List.getLast_mem hl)
  have hw : wholeNumber l = some (digits l : Int) := by
    have hsplit : l.splitOn '_' = [l] := by
      rw [List.splitOn_eq_splitOnP]
      apply List.splitOnP_eq_singleton
      intro c hc
      have hn := digit_toNat (hd c hc)
      rw [beq_eq_false_iff_ne]
      rintro rfl
      revert hn
      decide
    rw [wholeNumber, hsplit, List.filter_eq_self.mpr hd]
    simp [hne, h]
  rw [intText, hs]
  split
  · simp [isDigit] at h
  · simp [isDigit] at h
  · exact hw

def nanoDigits (fraction : List Char) : List Char :=
  fraction ++ List.replicate (9 - fraction.length) '0'

theorem microDigits_eq {f : List Char} (hlen : f.length ≤ 9) :
    microDigits f = (nanoDigits f).take 6 := by
  rw [microDigits, nanoDigits, List.take_append, List.take_append, List.take_replicate,
    List.take_replicate]
  congr 2
  omega

theorem nanoDigits_all {f : List Char} (h : f.all isDigit = true) :
    (nanoDigits f).all isDigit = true := by
  rw [nanoDigits, List.all_append, h, Bool.true_and, List.all_replicate]
  split
  · rfl
  · rfl

theorem microDigits_ne {f : List Char} (h : f ≠ []) : microDigits f ≠ [] := by
  simp [microDigits, h]

theorem microDigits_all {f : List Char} (hlen : f.length ≤ 9) (h : f.all isDigit = true) :
    (microDigits f).all isDigit = true := by
  have hall := nanoDigits_all h
  rw [← List.take_append_drop 6 (nanoDigits f), List.all_append, Bool.and_eq_true] at hall
  rw [microDigits_eq hlen]
  exact hall.1

-- three digits of the nine are cut off
theorem digits_micro {f : List Char} (hlen : f.length ≤ 9) (h : f.all isDigit = true) :
    (digits (nanoDigits f)) / 1000 = digits (microDigits f) := by
  have hall := nanoDigits_all h
  have hsplit := List.take_append_drop 6 (nanoDigits f)
  have hdrop : ((nanoDigits f).drop 6).length = 3 := by
    rw [List.length_drop, nanoDigits, List.length_append, List.length_replicate]
    omega
  have hrest : ((nanoDigits f).drop 6).all isDigit = true := by
    rw [← hsplit, List.all_append, Bool.and_eq_true] at hall
    exact hall.2
  have hlt := digits_lt hrest
  have hd := digits_append ((nanoDigits f).take 6) ((nanoDigits f).drop 6)
  rw [hsplit, hdrop, ← microDigits_eq hlen] at hd
  rw [hdrop] at hlt
  omega

def nanoTime (stamp : String) : Option Int :=
  let parts := timeParts stamp.toList.dropLast
  if endsWith stamp "Z" ∧ parts.2.length ≤ 9 ∧ parts.2.all isDigit then
    (wholeTime parts.1).map fun seconds => seconds * 1000000000 + digits (nanoDigits parts.2)
  else none

theorem micro_of_nano {stamp : String} {nanos : Int} (h : nanoTime stamp = some nanos) :
    parseTime stamp = .ok (((nanos / 1000 : Int) : Rat) / 1000000) := by
  rw [nanoTime] at h
  split at h
  next hok =>
    obtain ⟨hz, hlen, hdigit⟩ := hok
    obtain ⟨seconds, hs, rfl⟩ := Option.map_eq_some_iff.mp h
    have hmicro := digits_micro hlen hdigit
    have hdiv : (seconds * 1000000000 +
        (digits (nanoDigits (timeParts stamp.toList.dropLast).2) : Int)) / 1000 =
        seconds * 1000000 + digits (microDigits (timeParts stamp.toList.dropLast).2) := by
      rw [← hmicro]
      omega
    have hint : (if (timeParts stamp.toList.dropLast).2 = [] then some 0
        else intText (microDigits (timeParts stamp.toList.dropLast).2)) =
          some (digits (microDigits (timeParts stamp.toList.dropLast).2) : Int) := by
      split
      next he => rw [he]; rfl
      next hne =>
        rw [intText_digits (microDigits_ne hne) (microDigits_all hlen hdigit)]
    rw [parseTime, if_pos hz]
    simp only [hs, hint, hdiv]
    push_cast
    congr 1
    ring
  next => exact absurd h (by simp)

structure DatedItem where
  item : LogItem
  nanos : Int
  dated : nanoTime item.time = some nanos

end VibeDPN
