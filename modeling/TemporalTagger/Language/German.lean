/-
The German rules, with the pattern variables and normalization functions that they use.
-/
import TemporalTagger.Language.Resources

namespace TemporalTagger.Language.German

/-- The pattern variables. -/
def vars : List (String × String) :=
  [("reYear4Digit", "[12][0-9]\x7b3\x7d"),
   ("reYear3Digit", "[12][0-9]\x7b2\x7d"),
   ("reCentury", "(?:1[0-9]|2[01])"),
   ("reMonthLong",
      "(?:Januar|Jänner|Februar|März|April|Mai|Juni|Juli|August|September|Oktober|November|" ++
      "Dezember)"),
   ("reMonthShort", "(?:Jan|Feb|Mär|Apr|Jun|Jul|Aug|Sept?|Okt|Nov|Dez)\\.?"),
   ("reMonthNumber", "(?:0?[1-9]|1[0-2])"),
   ("reDayNumber", "(?:0?[1-9]|[12][0-9]|3[01])"),
   ("reWeekday", "(?:Montag|Dienstag|Mittwoch|Donnerstag|Freitag|Samstag|Sonnabend|Sonntag)"),
   ("reSeason", "(?:Frühling|Frühjahr|Sommer|Herbst|Winter)"),
   ("reThisNextLast",
      "(?:[Dd]ies(?:e[mnrs]?)?|[Ll]etzte[mnrs]?|[Vv]ergangene[mnrs]?|[Nn]ächste[mnrs]?|" ++
      "[Kk]ommende[mnrs]?)"),
   ("reUnit", "(?:Tag|Woche|Monat|Quartal|Jahr|Jahrzehnt|Jahrhundert)"),
   ("reUnitPlural",
      "(?:Tagen?|Tage|Wochen|Monaten?|Monate|Quartalen?|Quartale|Jahren?|Jahre|Jahrzehnten?|" ++
      "Jahrzehnte|Jahrhunderten?|Jahrhunderte)"),
   ("reUnitTime", "(?:Stunden?|Minuten?)"),
   ("reNumWord",
      "(?:ein|eine|einem|einen|einer|zwei|drei|vier|fünf|sechs|sieben|acht|neun|zehn|elf|" ++
      "zwölf)"),
   ("reNumber",
      "(?:[0-9]\x7b1,3\x7d|ein|eine|einem|einen|einer|zwei|drei|vier|fünf|sechs|sieben|acht|" ++
      "neun|zehn|elf|zwölf)"),
   ("reQuarterNumber", "(?:erste|zweite|dritte|vierte|ersten|zweiten|dritten|vierten)"),
   ("reTimeHour", "(?:[01]?[0-9]|2[0-3])"),
   ("reTimeMinute", "[0-5][0-9]"),
   ("reRelativeDirection", "(?:später|danach|früher|zuvor|vorher)"),
   ("reEvery", "(?:[Jj]ede[nmrs]?)"),
   ("reFrequencyAdverb", "(?:täglich|wöchentlich|monatlich|vierteljährlich|jährlich)")]

/-- The normalization functions, each with its entries. -/
def sections : List (String × List (String × String)) :=
  [("normMonth",
     [("januar", "01"), ("februar", "02"), ("märz", "03"), ("april", "04"), ("mai", "05"),
      ("juni", "06"), ("juli", "07"), ("august", "08"), ("september", "09"), ("oktober", "10"),
      ("november", "11"), ("dezember", "12"), ("jänner", "01"), ("jan", "01"), ("jan.", "01"),
      ("feb", "02"), ("feb.", "02"), ("mär", "03"), ("mär.", "03"), ("apr", "04"), ("apr.", "04"),
      ("jun", "06"), ("jun.", "06"), ("jul", "07"), ("jul.", "07"), ("aug", "08"), ("aug.", "08"),
      ("sep", "09"), ("sep.", "09"), ("okt", "10"), ("okt.", "10"), ("nov", "11"), ("nov.", "11"),
      ("dez", "12"), ("dez.", "12"), ("sept", "09"), ("sept.", "09"), ("1", "01"), ("2", "02"),
      ("3", "03"), ("4", "04"), ("5", "05"), ("6", "06"), ("7", "07"), ("8", "08"), ("9", "09"),
      ("10", "10"), ("11", "11"), ("12", "12"), ("01", "01"), ("02", "02"), ("03", "03"),
      ("04", "04"), ("05", "05"), ("06", "06"), ("07", "07"), ("08", "08"), ("09", "09")]),
   ("normDay",
     [("1", "01"), ("01", "01"), ("2", "02"), ("02", "02"), ("3", "03"), ("03", "03"),
      ("4", "04"), ("04", "04"), ("5", "05"), ("05", "05"), ("6", "06"), ("06", "06"),
      ("7", "07"), ("07", "07"), ("8", "08"), ("08", "08"), ("9", "09"), ("09", "09"),
      ("10", "10"), ("11", "11"), ("12", "12"), ("13", "13"), ("14", "14"), ("15", "15"),
      ("16", "16"), ("17", "17"), ("18", "18"), ("19", "19"), ("20", "20"), ("21", "21"),
      ("22", "22"), ("23", "23"), ("24", "24"), ("25", "25"), ("26", "26"), ("27", "27"),
      ("28", "28"), ("29", "29"), ("30", "30"), ("31", "31")]),
   ("normHour",
     [("0", "00"), ("00", "00"), ("1", "01"), ("01", "01"), ("2", "02"), ("02", "02"),
      ("3", "03"), ("03", "03"), ("4", "04"), ("04", "04"), ("5", "05"), ("05", "05"),
      ("6", "06"), ("06", "06"), ("7", "07"), ("07", "07"), ("8", "08"), ("08", "08"),
      ("9", "09"), ("09", "09"), ("10", "10"), ("11", "11"), ("12", "12"), ("13", "13"),
      ("14", "14"), ("15", "15"), ("16", "16"), ("17", "17"), ("18", "18"), ("19", "19"),
      ("20", "20"), ("21", "21"), ("22", "22"), ("23", "23"), ("24", "24")]),
   ("normWeekday",
     [("montag", "1"), ("dienstag", "2"), ("mittwoch", "3"), ("donnerstag", "4"),
      ("freitag", "5"), ("samstag", "6"), ("sonnabend", "6"), ("sonntag", "7")]),
   ("normSeason",
     [("frühling", "SP"), ("frühjahr", "SP"), ("sommer", "SU"), ("herbst", "FA"),
      ("winter", "WI")]),
   ("normNumber",
     [("ein", "1"), ("eine", "1"), ("einem", "1"), ("einen", "1"), ("einer", "1"), ("zwei", "2"),
      ("drei", "3"), ("vier", "4"), ("fünf", "5"), ("sechs", "6"), ("sieben", "7"), ("acht", "8"),
      ("neun", "9"), ("zehn", "10"), ("elf", "11"), ("zwölf", "12")]),
   ("normUnit",
     [("tag", "day"), ("tage", "day"), ("tagen", "day"), ("woche", "week"), ("wochen", "week"),
      ("monat", "month"), ("monate", "month"), ("monaten", "month"), ("quartal", "quarter"),
      ("quartale", "quarter"), ("quartalen", "quarter"), ("jahr", "year"), ("jahre", "year"),
      ("jahren", "year"), ("jahrzehnt", "decade"), ("jahrzehnte", "decade"),
      ("jahrzehnten", "decade"), ("jahrhundert", "century"), ("jahrhunderte", "century"),
      ("jahrhunderten", "century")]),
   ("normUnit4Duration",
     [("tag", "D"), ("tage", "D"), ("tagen", "D"), ("woche", "W"), ("wochen", "W"),
      ("monat", "M"), ("monate", "M"), ("monaten", "M"), ("quartal", "Q"), ("quartale", "Q"),
      ("quartalen", "Q"), ("jahr", "Y"), ("jahre", "Y"), ("jahren", "Y"), ("jahrzehnt", "DE"),
      ("jahrzehnte", "DE"), ("jahrzehnten", "DE"), ("jahrhundert", "CE"), ("jahrhunderte", "CE"),
      ("jahrhunderten", "CE"), ("stunde", "H"), ("stunden", "H"), ("minute", "M"),
      ("minuten", "M"), ("täglich", "D"), ("wöchentlich", "W"), ("monatlich", "M"),
      ("vierteljährlich", "Q"), ("jährlich", "Y")]),
   ("normThisNextLast",
     [("dies", "this"), ("diesem", "this"), ("diesen", "this"), ("dieser", "this"),
      ("dieses", "this"), ("letzte", "last"), ("letztem", "last"), ("letzten", "last"),
      ("letzter", "last"), ("letztes", "last"), ("vergangene", "last"), ("vergangenem", "last"),
      ("vergangenen", "last"), ("vergangener", "last"), ("vergangenes", "last"),
      ("nächste", "next"), ("nächstem", "next"), ("nächsten", "next"), ("nächster", "next"),
      ("nächstes", "next"), ("kommende", "next"), ("kommendem", "next"), ("kommenden", "next"),
      ("kommender", "next"), ("kommendes", "next"), ("diese", "this")]),
   ("normQuarter",
     [("erste", "1"), ("zweite", "2"), ("dritte", "3"), ("vierte", "4"), ("ersten", "1"),
      ("zweiten", "2"), ("dritten", "3"), ("vierten", "4")]),
   ("normPartOfDay",
     [("morgen", "MO"), ("vormittag", "MO"), ("mittag", "MI"), ("nachmittag", "AF"),
      ("abend", "EV"), ("nacht", "NI")]),
   ("normDayDirection",
     [("heute", "PLUS-0"), ("gestern", "MINUS-1")]),
   ("normDirection",
     [("später", "PLUS"), ("danach", "PLUS"), ("früher", "MINUS"), ("zuvor", "MINUS"),
      ("vorher", "MINUS")]),
   ("normPartWords",
     [("anfang", "START"), ("mitte", "MID"), ("ende", "END"), ("frühen", "START"),
      ("späten", "END")])]

/-- The tags and words that show tense. -/
def tense : TenseTags :=
  {}

/-- The date rules. -/
def dateRules : List RuleLine :=
  [{ name := "date_r0a"
     extraction := "(%reYear4Digit)-(%reMonthNumber)-(%reDayNumber)"
     value := "group(1)-%normMonth(group(2))-%normDay(group(3))"
     fastCheck := some "[0-9]-[0-9]" },
   { name := "date_r1a"
     extraction := "(%reDayNumber)\\.(%reMonthNumber)\\.(%reYear4Digit)"
     value := "group(3)-%normMonth(group(2))-%normDay(group(1))"
     fastCheck := some "[0-9]\\.[0-9]" },
   { name := "date_r3a"
     extraction := "(%reDayNumber)\\. (%reMonthLong|%reMonthShort) (%reYear4Digit)"
     value := "group(3)-%normMonth(group(2))-%normDay(group(1))" },
   { name := "date_r4a"
     extraction := "(%reDayNumber)\\. (%reMonthLong|%reMonthShort)"
     value := "UNDEF-year-%normMonth(group(2))-%normDay(group(1))" },
   { name := "date_r10a"
     extraction := "(%reMonthLong|%reMonthShort) (%reYear4Digit)"
     value := "group(2)-%normMonth(group(1))" },
   { name := "date_r18a"
     extraction := "(%reMonthLong)"
     value := "UNDEF-year-%normMonth(group(1))" },
   { name := "date_r14a"
     extraction := "(%reYear4Digit)"
     value := "group(1)"
     fastCheck := some "[0-9]\x7b4\x7d" },
   { name := "date_r14b"
     extraction := "[Jj]ahr(?:e|es)? (%reYear4Digit)"
     value := "group(1)"
     fastCheck := some "[0-9]\x7b4\x7d" },
   { name := "date_r14c"
     extraction := "(Anfang|Mitte|Ende) (%reYear4Digit)"
     value := "group(2)"
     modifier := some "%normPartWords(group(1))"
     fastCheck := some "[0-9]\x7b4\x7d" },
   { name := "date_r19a"
     extraction := "(?:die )?(%reYear3Digit)0er(?: Jahre[n]?)?"
     value := "group(1)"
     fastCheck := some "0er" },
   { name := "date_r19b"
     extraction := "(?:die |den )?(frühen|späten) (%reYear3Digit)0er(?: Jahre[n]?)?"
     value := "group(2)"
     modifier := some "%normPartWords(group(1))"
     fastCheck := some "0er" },
   { name := "date_r17a"
     extraction := "(?:das |im )?(%reCentury)\\. Jahrhundert"
     value := "%SUM%(group(1),-1)"
     fastCheck := some "Jahrhundert" },
   { name := "date_r13a"
     extraction := "(%reQuarterNumber) Quartal (%reYear4Digit)"
     value := "group(2)-Q%normQuarter(group(1))"
     fastCheck := some "Quartal" },
   { name := "date_r13b"
     extraction := "(%reQuarterNumber) Quartal"
     value := "UNDEF-year-Q%normQuarter(group(1))"
     fastCheck := some "Quartal" },
   { name := "date_r12a"
     extraction := "(%reSeason) (%reYear4Digit)"
     value := "group(2)-%normSeason(group(1))" },
   { name := "date_r12b"
     extraction := "(%reSeason)"
     value := "UNDEF-year-%normSeason(group(1))" },
   { name := "date_r20a"
     extraction := "(%reThisNextLast) (%reUnit)"
     value := "UNDEF-%normThisNextLast(group(1))-%normUnit(group(2))" },
   { name := "date_r24a"
     extraction := "(%reNumber) (%reUnitPlural|%reUnit) (%reRelativeDirection)"
     value := "UNDEF-REF-%normUnit(group(2))-%normDirection(group(3))-%normNumber(group(1))" },
   { name := "date_r24b"
     extraction := "vor (%reNumber) (%reUnitPlural|%reUnit)"
     value := "UNDEF-REF-%normUnit(group(2))-MINUS-%normNumber(group(1))"
     fastCheck := some "vor" },
   { name := "date_r8a"
     extraction := "([Hh]eute)"
     value := "UNDEF-REF-day-PLUS-0" },
   { name := "date_r8b"
     extraction := "([Gg]estern)"
     value := "UNDEF-REF-day-MINUS-1" },
   { name := "date_r8c"
     extraction := "([Mm]orgen)"
     value := "UNDEF-REF-day-PLUS-1"
     posConstraint := some "group(1):ADV:" },
   { name := "date_r8d"
     extraction := "([Vv]orgestern)"
     value := "UNDEF-REF-day-MINUS-2" },
   { name := "date_r8e"
     extraction := "([Üü]bermorgen)"
     value := "UNDEF-REF-day-PLUS-2" },
   { name := "date_r27a"
     extraction := "(?:Neujahr|Neujahrstag) (%reYear4Digit)"
     value := "group(1)-01-01" },
   { name := "date_r27b"
     extraction := "(?:Heiligabend|Heiliger Abend) (%reYear4Digit)"
     value := "group(1)-12-24" },
   { name := "date_r21a"
     extraction := "(?:[Zz]urzeit|[Dd]erzeit|[Gg]egenwärtig)"
     value := "PRESENT_REF" },
   { name := "date_r21b"
     extraction := "(?:[Ff]rüher|[Vv]ormals|[Ee]inst)"
     value := "PAST_REF" }]

/-- The time rules. -/
def timeRules : List RuleLine :=
  [{ name := "time_r1a"
     extraction := "(%reTimeHour)[:.](%reTimeMinute) Uhr"
     value := "UNDEF-this-dayT%normHour(group(1)):group(2)"
     fastCheck := some "Uhr" },
   { name := "time_r1b"
     extraction := "(%reTimeHour) Uhr"
     value := "UNDEF-this-dayT%normHour(group(1)):00"
     fastCheck := some "Uhr" },
   { name := "time_r2a"
     extraction := "(%reYear4Digit)-(%reMonthNumber)-(%reDayNumber)T(%reTimeHour):(%reTimeMinute)"
     value := "group(1)-%normMonth(group(2))-%normDay(group(3))T%normHour(group(4)):group(5)"
     fastCheck := some "[0-9]T[0-9]" },
   { name := "time_r3a"
     extraction := "(heute|gestern) (Morgen|Vormittag|Mittag|Nachmittag|Abend|Nacht)"
     value := "UNDEF-REF-day-%normDayDirection(group(1))T%normPartOfDay(group(2))" }]

/-- The duration rules. -/
def durationRules : List RuleLine :=
  [{ name := "duration_r1a"
     extraction := "(%reNumber) (%reUnitPlural|%reUnit)"
     value := "P%normNumber(group(1))%normUnit4Duration(group(2))" },
   { name := "duration_r1b"
     extraction := "(%reNumber) (%reUnitTime)"
     value := "PT%normNumber(group(1))%normUnit4Duration(group(2))" },
   { name := "duration_r2a"
     extraction := "(?:einige|einigen|mehrere|mehreren|ein paar) (%reUnitPlural)"
     value := "PX%normUnit4Duration(group(1))" },
   { name := "duration_r3a"
     extraction := "mehr als (%reNumber) (%reUnitPlural|%reUnit)"
     value := "P%normNumber(group(1))%normUnit4Duration(group(2))"
     modifier := some "MORE_THAN" },
   { name := "duration_r3b"
     extraction := "(?:etwa|ungefähr|rund|circa) (%reNumber) (%reUnitPlural|%reUnit)"
     value := "P%normNumber(group(1))%normUnit4Duration(group(2))"
     modifier := some "APPROX" }]

/-- The set rules. -/
def setRules : List RuleLine :=
  [{ name := "set_r1a"
     extraction := "%reEvery (%reUnit)"
     value := "P1%normUnit4Duration(group(1))"
     quant := some "EVERY" },
   { name := "set_r1b"
     extraction := "%reEvery (%reWeekday)"
     value := "XXXX-WXX-%normWeekday(group(1))"
     quant := some "EVERY" },
   { name := "set_r2a"
     extraction := "(%reFrequencyAdverb)"
     value := "P1%normUnit4Duration(group(1))"
     freq := some "1X" }]

/-- The temponym rules. -/
def temponymRules : List RuleLine :=
  [{ name := "temponym_r1a"
     extraction := "(?:[Dd]e[rsm] )?Zweiten? Weltkrieg(?:e?s)?"
     value := "[1939-09-01, 1945-09-02]" },
   { name := "temponym_r1b"
     extraction := "(?:[Dd]e[rsm] )?Ersten? Weltkrieg(?:e?s)?"
     value := "[1914-07-28, 1918-11-11]" },
   { name := "temponym_r2a"
     extraction := "(?:[Dd]e[rsm] )?Kalten? Krieg(?:e?s)?"
     value := "[1947-03-12, 1991-12-26]" }]

/-- All of it. -/
def resources : Resources :=
  { vars := Table.ofList vars
    normalization := Normalization.ofSections sections
    tense := tense
    rules := fun
      | .date => dateRules
      | .time => timeRules
      | .duration => durationRules
      | .set => setRules
      | .temponym => temponymRules }

end TemporalTagger.Language.German
