/-
The English rules, with the pattern variables and normalization functions that they use, and the
part-of-speech tags that show tense.
-/
import TemporalTagger.Language.Resources

namespace TemporalTagger.Language.English

/-- The pattern variables. -/
def vars : List (String × String) :=
  [("reYear4Digit", "[12][0-9]\x7b3\x7d"),
   ("reYear3Digit", "[12][0-9]\x7b2\x7d"),
   ("reCentury", "(?:1[0-9]|2[01])"),
   ("reMonthLong",
      "(?:January|February|March|April|May|June|July|August|September|October|November|" ++
      "December)"),
   ("reMonthLongNoMay",
      "(?:January|February|March|April|June|July|August|September|October|November|December)"),
   ("reMonthShort", "(?:Jan|Feb|Mar|Apr|Jun|Jul|Aug|Sept?|Oct|Nov|Dec)\\.?"),
   ("reMonthNumber", "(?:0?[1-9]|1[0-2])"),
   ("reDayNumber", "(?:0?[1-9]|[12][0-9]|3[01])"),
   ("reDayNumberTh", "(?:0?[1-9]|[12][0-9]|3[01])(?:st|nd|rd|th)?"),
   ("reWeekday", "(?:Monday|Tuesday|Wednesday|Thursday|Friday|Saturday|Sunday)"),
   ("reSeason", "(?:[Ss]pring|[Ss]ummer|[Aa]utumn|[Ww]inter)"),
   ("reThisNextLast", "(?:[Tt]his|[Nn]ext|[Ll]ast)"),
   ("reFollowing", "(?:following|previous|same)"),
   ("reUnit", "(?:day|week|month|quarter|year|decade|century)"),
   ("reUnitPlural", "(?:days|weeks|months|quarters|years|decades|centuries)"),
   ("reUnitTime", "(?:hours?|minutes?)"),
   ("reNumWord", "(?:one|two|three|four|five|six|seven|eight|nine|ten|eleven|twelve)"),
   ("reNumber", "(?:[0-9]\x7b1,3\x7d|one|two|three|four|five|six|seven|eight|nine|ten|eleven|twelve)"),
   ("reQuarterNumber", "(?:first|second|third|fourth|1st|2nd|3rd|4th)"),
   ("reTimeHour", "(?:[01]?[0-9]|2[0-3])"),
   ("reTimeMinute", "[0-5][0-9]"),
   ("rePartOfDay", "(?:morning|afternoon|evening|night)"),
   ("reNamedTime", "(?:noon|midnight)"),
   ("reApprox", "(?:about|around|approximately|roughly)"),
   ("reEvery", "(?:[Ee]very|[Ee]ach)"),
   ("reFrequencyAdverb", "(?:[Dd]aily|[Ww]eekly|[Mm]onthly|[Qq]uarterly|[Yy]early|[Aa]nnually)")]

/-- The normalization functions, each with its entries. -/
def sections : List (String × List (String × String)) :=
  [("normMonth",
     [("january", "01"), ("february", "02"), ("march", "03"), ("april", "04"), ("may", "05"),
      ("june", "06"), ("july", "07"), ("august", "08"), ("september", "09"), ("october", "10"),
      ("november", "11"), ("december", "12"), ("jan", "01"), ("jan.", "01"), ("feb", "02"),
      ("feb.", "02"), ("mar", "03"), ("mar.", "03"), ("apr", "04"), ("apr.", "04"), ("jun", "06"),
      ("jun.", "06"), ("jul", "07"), ("jul.", "07"), ("aug", "08"), ("aug.", "08"), ("sep", "09"),
      ("sep.", "09"), ("oct", "10"), ("oct.", "10"), ("nov", "11"), ("nov.", "11"), ("dec", "12"),
      ("dec.", "12"), ("sept", "09"), ("sept.", "09"), ("1", "01"), ("2", "02"), ("3", "03"),
      ("4", "04"), ("5", "05"), ("6", "06"), ("7", "07"), ("8", "08"), ("9", "09"), ("10", "10"),
      ("11", "11"), ("12", "12"), ("01", "01"), ("02", "02"), ("03", "03"), ("04", "04"),
      ("05", "05"), ("06", "06"), ("07", "07"), ("08", "08"), ("09", "09")]),
   ("normDay",
     [("1", "01"), ("1st", "01"), ("01", "01"), ("01st", "01"), ("2", "02"), ("2nd", "02"),
      ("02", "02"), ("02nd", "02"), ("3", "03"), ("3rd", "03"), ("03", "03"), ("03rd", "03"),
      ("4", "04"), ("4th", "04"), ("04", "04"), ("04th", "04"), ("5", "05"), ("5th", "05"),
      ("05", "05"), ("05th", "05"), ("6", "06"), ("6th", "06"), ("06", "06"), ("06th", "06"),
      ("7", "07"), ("7th", "07"), ("07", "07"), ("07th", "07"), ("8", "08"), ("8th", "08"),
      ("08", "08"), ("08th", "08"), ("9", "09"), ("9th", "09"), ("09", "09"), ("09th", "09"),
      ("10", "10"), ("10th", "10"), ("11", "11"), ("11th", "11"), ("12", "12"), ("12th", "12"),
      ("13", "13"), ("13th", "13"), ("14", "14"), ("14th", "14"), ("15", "15"), ("15th", "15"),
      ("16", "16"), ("16th", "16"), ("17", "17"), ("17th", "17"), ("18", "18"), ("18th", "18"),
      ("19", "19"), ("19th", "19"), ("20", "20"), ("20th", "20"), ("21", "21"), ("21st", "21"),
      ("22", "22"), ("22nd", "22"), ("23", "23"), ("23rd", "23"), ("24", "24"), ("24th", "24"),
      ("25", "25"), ("25th", "25"), ("26", "26"), ("26th", "26"), ("27", "27"), ("27th", "27"),
      ("28", "28"), ("28th", "28"), ("29", "29"), ("29th", "29"), ("30", "30"), ("30th", "30"),
      ("31", "31"), ("31st", "31")]),
   ("normHour",
     [("0", "00"), ("00", "00"), ("1", "01"), ("01", "01"), ("2", "02"), ("02", "02"),
      ("3", "03"), ("03", "03"), ("4", "04"), ("04", "04"), ("5", "05"), ("05", "05"),
      ("6", "06"), ("06", "06"), ("7", "07"), ("07", "07"), ("8", "08"), ("08", "08"),
      ("9", "09"), ("09", "09"), ("10", "10"), ("11", "11"), ("12", "12"), ("13", "13"),
      ("14", "14"), ("15", "15"), ("16", "16"), ("17", "17"), ("18", "18"), ("19", "19"),
      ("20", "20"), ("21", "21"), ("22", "22"), ("23", "23"), ("24", "24")]),
   ("normMeridiem",
     [("a", "0"), ("p", "12")]),
   ("normWeekday",
     [("monday", "1"), ("tuesday", "2"), ("wednesday", "3"), ("thursday", "4"), ("friday", "5"),
      ("saturday", "6"), ("sunday", "7")]),
   ("normSeason",
     [("spring", "SP"), ("summer", "SU"), ("autumn", "FA"), ("fall", "FA"), ("winter", "WI")]),
   ("normNumber",
     [("a", "1"), ("an", "1"), ("one", "1"), ("two", "2"), ("three", "3"), ("four", "4"),
      ("five", "5"), ("six", "6"), ("seven", "7"), ("eight", "8"), ("nine", "9"), ("ten", "10"),
      ("eleven", "11"), ("twelve", "12")]),
   ("normUnit",
     [("day", "day"), ("days", "day"), ("week", "week"), ("weeks", "week"), ("month", "month"),
      ("months", "month"), ("quarter", "quarter"), ("quarters", "quarter"), ("year", "year"),
      ("years", "year"), ("decade", "decade"), ("decades", "decade"), ("century", "century"),
      ("centuries", "century")]),
   ("normUnit4Duration",
     [("day", "D"), ("days", "D"), ("week", "W"), ("weeks", "W"), ("month", "M"), ("months", "M"),
      ("quarter", "Q"), ("quarters", "Q"), ("year", "Y"), ("years", "Y"), ("decade", "DE"),
      ("decades", "DE"), ("century", "CE"), ("centuries", "CE"), ("hour", "H"), ("hours", "H"),
      ("minute", "M"), ("minutes", "M"), ("daily", "D"), ("weekly", "W"), ("monthly", "M"),
      ("quarterly", "Q"), ("yearly", "Y"), ("annually", "Y")]),
   ("normThisNextLast",
     [("this", "this"), ("next", "next"), ("last", "last"), ("following", "next"),
      ("previous", "last"), ("same", "this")]),
   ("normQuarter",
     [("first", "1"), ("second", "2"), ("third", "3"), ("fourth", "4"), ("1st", "1"),
      ("2nd", "2"), ("3rd", "3"), ("4th", "4")]),
   ("normPartOfDay",
     [("morning", "MO"), ("afternoon", "AF"), ("evening", "EV"), ("night", "NI")]),
   ("normNamedTime",
     [("noon", "12:00"), ("midnight", "24:00")]),
   ("normPartWords",
     [("early", "START"), ("late", "END"), ("mid", "MID")])]

/-- The tags and words that show tense. -/
def tense : TenseTags :=
  { presentFuture := some "(?:VHZ|VBZ|VHP|VBP|VVZ|VVP)"
    past := some "(?:VBD|VHD|VVD)"
    future := some "MD"
    futureWord := some "(?:will|shall|'ll)" }

/-- The date rules. -/
def dateRules : List RuleLine :=
  [{ name := "date_r0a"
     extraction := "(%reYear4Digit)-(%reMonthNumber)-(%reDayNumber)"
     value := "group(1)-%normMonth(group(2))-%normDay(group(3))"
     fastCheck := some "[0-9]-[0-9]" },
   { name := "date_r0c"
     extraction := "(%reMonthNumber)/(%reDayNumber)/(%reYear4Digit)"
     value := "group(3)-%normMonth(group(1))-%normDay(group(2))"
     fastCheck := some "[0-9]/[0-9]" },
   { name := "date_r2a"
     extraction := "(%reMonthLong|%reMonthShort) (%reDayNumberTh), (%reYear4Digit)"
     value := "group(3)-%normMonth(group(1))-%normDay(group(2))" },
   { name := "date_r3a"
     extraction := "(%reDayNumberTh) (%reMonthLong|%reMonthShort) (%reYear4Digit)"
     value := "group(3)-%normMonth(group(2))-%normDay(group(1))" },
   { name := "date_r4a"
     extraction := "(%reMonthLong|%reMonthShort) (%reDayNumberTh)"
     value := "UNDEF-year-%normMonth(group(1))-%normDay(group(2))" },
   { name := "date_r4b"
     extraction := "the (%reDayNumberTh) of (%reMonthLong)"
     value := "UNDEF-year-%normMonth(group(2))-%normDay(group(1))" },
   { name := "date_r10a"
     extraction := "(%reMonthLong|%reMonthShort) (%reYear4Digit)"
     value := "group(2)-%normMonth(group(1))" },
   { name := "date_r18a"
     extraction := "(%reMonthLongNoMay)"
     value := "UNDEF-year-%normMonth(group(1))" },
   { name := "date_r18b"
     extraction := "(May)"
     value := "UNDEF-year-%normMonth(group(1))"
     posConstraint := some "group(1):NP:" },
   { name := "date_r14a"
     extraction := "(%reYear4Digit)"
     value := "group(1)"
     fastCheck := some "[0-9]\x7b4\x7d" },
   { name := "date_r14b"
     extraction := "([Ee]arly|[Ll]ate) (%reYear4Digit)"
     value := "group(2)"
     modifier := some "%normPartWords(group(1))"
     fastCheck := some "[0-9]\x7b4\x7d" },
   { name := "date_r14c"
     extraction := "([Mm]id)-(%reYear4Digit)"
     value := "group(2)"
     modifier := some "MID"
     fastCheck := some "[0-9]\x7b4\x7d" },
   { name := "date_r19a"
     extraction := "(?:the )?(%reYear3Digit)0s"
     value := "group(1)"
     fastCheck := some "0s" },
   { name := "date_r19b"
     extraction := "the (early|late) (%reYear3Digit)0s"
     value := "group(2)"
     modifier := some "%normPartWords(group(1))"
     fastCheck := some "0s" },
   { name := "date_r17a"
     extraction := "the (%reCentury)(?:st|nd|rd|th) century"
     value := "%SUM%(group(1),-1)"
     fastCheck := some "century" },
   { name := "date_r13a"
     extraction := "the (%reQuarterNumber) quarter of (%reYear4Digit)"
     value := "group(2)-Q%normQuarter(group(1))"
     fastCheck := some "quarter" },
   { name := "date_r13b"
     extraction := "the (%reQuarterNumber) quarter"
     value := "UNDEF-year-Q%normQuarter(group(1))"
     fastCheck := some "quarter" },
   { name := "date_r12a"
     extraction := "(%reSeason) (?:of )?(%reYear4Digit)"
     value := "group(2)-%normSeason(group(1))" },
   { name := "date_r12b"
     extraction := "(%reSeason)"
     value := "UNDEF-year-%normSeason(group(1))" },
   { name := "date_r12c"
     extraction := "(fall)"
     value := "UNDEF-year-%normSeason(group(1))"
     posConstraint := some "group(1):NN:" },
   { name := "date_r20a"
     extraction := "(%reThisNextLast) (%reUnit)"
     value := "UNDEF-%normThisNextLast(group(1))-%normUnit(group(2))" },
   { name := "date_r20b"
     extraction := "the (%reFollowing) (%reUnit)"
     value := "UNDEF-%normThisNextLast(group(1))-%normUnit(group(2))" },
   { name := "date_r20c"
     extraction := "(%reThisNextLast) (%reSeason)"
     value := "UNDEF-%normThisNextLast(group(1))-year-%normSeason(group(2))" },
   { name := "date_r24a"
     extraction := "(%reNumber|an?) (%reUnitPlural|%reUnit) (ago|earlier|before)"
     value := "UNDEF-REF-%normUnit(group(2))-MINUS-%normNumber(group(1))"
     fastCheck := some "(?:ago|earlier|before)" },
   { name := "date_r24b"
     extraction := "(%reNumber|an?) (%reUnitPlural|%reUnit) (later|after)"
     value := "UNDEF-REF-%normUnit(group(2))-PLUS-%normNumber(group(1))"
     fastCheck := some "(?:later|after)" },
   { name := "date_r8a"
     extraction := "([Tt]oday)"
     value := "UNDEF-REF-day-PLUS-0" },
   { name := "date_r8b"
     extraction := "([Yy]esterday)"
     value := "UNDEF-REF-day-MINUS-1" },
   { name := "date_r8c"
     extraction := "([Tt]omorrow)"
     value := "UNDEF-REF-day-PLUS-1" },
   { name := "date_r21a"
     extraction := "(?:[Rr]ight now|[Cc]urrently|[Nn]owadays)"
     value := "PRESENT_REF" },
   { name := "date_r21b"
     extraction := "(?:[Rr]ecently|[Ii]n the past)"
     value := "PAST_REF" },
   { name := "date_r21c"
     extraction := "(?:[Ii]n the future)"
     value := "FUTURE_REF" }]

/-- The time rules. -/
def timeRules : List RuleLine :=
  [{ name := "time_r1a"
     extraction := "(%reYear4Digit)-(%reMonthNumber)-(%reDayNumber)T(%reTimeHour):(%reTimeMinute)"
     value := "group(1)-%normMonth(group(2))-%normDay(group(3))T%normHour(group(4)):group(5)"
     fastCheck := some "[0-9]T[0-9]" },
   { name := "time_r2a"
     extraction := "(%reTimeHour):(%reTimeMinute)"
     value := "UNDEF-this-dayT%normHour(group(1)):group(2)"
     fastCheck := some "[0-9]:[0-9]" },
   { name := "time_r2b"
     extraction := "(0?[1-9]|1[01]):(%reTimeMinute)\\s?([ap])\\.?m\\.?"
     value := "UNDEF-this-dayT%normHour(%SUM%(group(1),%normMeridiem(group(3)))):group(2)"
     fastCheck := some "[0-9]\\s?[ap]\\.?m" },
   { name := "time_r3a"
     extraction := "([Tt]his) (%rePartOfDay)"
     value := "UNDEF-this-dayT%normPartOfDay(group(2))" },
   { name := "time_r3b"
     extraction := "([Tt]onight)"
     value := "UNDEF-this-dayTNI" },
   { name := "time_r4a"
     extraction := "(at )(%reNamedTime)"
     value := "UNDEF-this-dayT%normNamedTime(group(2))"
     offset := some "group(2)-group(2)" }]

/-- The duration rules. -/
def durationRules : List RuleLine :=
  [{ name := "duration_r1a"
     extraction := "(%reNumber) (%reUnitPlural|%reUnit)"
     value := "P%normNumber(group(1))%normUnit4Duration(group(2))" },
   { name := "duration_r1b"
     extraction := "(%reNumber) (%reUnitTime)"
     value := "PT%normNumber(group(1))%normUnit4Duration(group(2))" },
   { name := "duration_r1c"
     extraction := "(for )(an?) (%reUnit)"
     value := "P1%normUnit4Duration(group(3))"
     offset := some "group(2)-group(3)" },
   { name := "duration_r2a"
     extraction := "(?:several|a few) (%reUnitPlural)"
     value := "PX%normUnit4Duration(group(1))" },
   { name := "duration_r3a"
     extraction := "more than (%reNumber) (%reUnitPlural|%reUnit)"
     value := "P%normNumber(group(1))%normUnit4Duration(group(2))"
     modifier := some "MORE_THAN" },
   { name := "duration_r3b"
     extraction := "less than (%reNumber) (%reUnitPlural|%reUnit)"
     value := "P%normNumber(group(1))%normUnit4Duration(group(2))"
     modifier := some "LESS_THAN" },
   { name := "duration_r3c"
     extraction := "%reApprox (%reNumber) (%reUnitPlural|%reUnit)"
     value := "P%normNumber(group(1))%normUnit4Duration(group(2))"
     modifier := some "APPROX" }]

/-- The set rules. -/
def setRules : List RuleLine :=
  [{ name := "set_r1a"
     extraction := "%reEvery (%reUnit)"
     value := "P1%normUnit4Duration(group(1))"
     quant := some "EVERY" },
   { name := "set_r1b"
     extraction := "%reEvery (%reWeekday)"
     value := "XXXX-WXX-%normWeekday(group(1))"
     quant := some "EVERY"
     fastCheck := some "(?:[Ee]very|[Ee]ach)" },
   { name := "set_r2a"
     extraction := "(%reFrequencyAdverb)"
     value := "P1%normUnit4Duration(group(1))"
     freq := some "1X" },
   { name := "set_r3a"
     extraction := "twice (?:a|per) (%reUnit)"
     value := "P1%normUnit4Duration(group(1))"
     freq := some "2X" }]

/-- The temponym rules. -/
def temponymRules : List RuleLine :=
  [{ name := "temponym_r1a"
     extraction := "(?:World War II|the Second World War)"
     value := "[1939-09-01, 1945-09-02]" },
   { name := "temponym_r1b"
     extraction := "(?:World War I|the First World War|the Great War)"
     value := "[1914-07-28, 1918-11-11]" },
   { name := "temponym_r2a"
     extraction := "the Cold War"
     value := "[1947-03-12, 1991-12-26]" }]

/-- All of it. -/
def resources : Resources :=
  { vars := Table.ofList vars
    normalization := Normalization.ofSections sections
    tense := tense
    rules := fun
      | .date => dateRules
      | .time => timeRules
      | .duration => durationRules
      | .set => setRules
      | .temponym => temponymRules }

end TemporalTagger.Language.English
