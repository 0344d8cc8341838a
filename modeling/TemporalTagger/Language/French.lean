/-
The French rules, with the pattern variables and normalization functions that they use, and the
part-of-speech tags that show tense.
-/
import TemporalTagger.Language.Resources

namespace TemporalTagger.Language.French

/-- The pattern variables. -/
def vars : List (String × String) :=
  [("reYear4Digit", "[12][0-9]\x7b3\x7d"),
   ("reYear3Digit", "[12][0-9]\x7b2\x7d"),
   ("reMonthLong",
      "(?:janvier|février|mars|avril|mai|juin|juillet|août|septembre|octobre|novembre|" ++
      "décembre)"),
   ("reMonthNumber", "(?:0?[1-9]|1[0-2])"),
   ("reDayNumber", "(?:0?[1-9]|[12][0-9]|3[01]|1er)"),
   ("reSeason", "(?:printemps|été|automne|hiver)"),
   ("reUnitPhrase", "(?:l'année|le mois|la semaine)"),
   ("reUnit", "(?:jour|semaine|mois|trimestre|an|année|décennie|siècle)"),
   ("reUnitPlural", "(?:jours|semaines|mois|trimestres|ans|années|décennies|siècles)"),
   ("reNumber",
      "(?:[0-9]\x7b1,3\x7d|un|une|deux|trois|quatre|cinq|six|sept|huit|neuf|dix|onze|douze)"),
   ("reTimeHour", "(?:[01]?[0-9]|2[0-3])"),
   ("reTimeMinute", "[0-5][0-9]"),
   ("reEvery", "(?:[Cc]haque|[Tt]ous les|[Tt]outes les)")]

/-- The normalization functions, each with its entries. -/
def sections : List (String × List (String × String)) :=
  [("normMonth",
     [("janvier", "01"), ("février", "02"), ("mars", "03"), ("avril", "04"), ("mai", "05"),
      ("juin", "06"), ("juillet", "07"), ("août", "08"), ("septembre", "09"), ("octobre", "10"),
      ("novembre", "11"), ("décembre", "12"), ("1", "01"), ("2", "02"), ("3", "03"), ("4", "04"),
      ("5", "05"), ("6", "06"), ("7", "07"), ("8", "08"), ("9", "09"), ("10", "10"), ("11", "11"),
      ("12", "12"), ("01", "01"), ("02", "02"), ("03", "03"), ("04", "04"), ("05", "05"),
      ("06", "06"), ("07", "07"), ("08", "08"), ("09", "09")]),
   ("normDay",
     [("1er", "01"), ("1", "01"), ("01", "01"), ("2", "02"), ("02", "02"), ("3", "03"),
      ("03", "03"), ("4", "04"), ("04", "04"), ("5", "05"), ("05", "05"), ("6", "06"),
      ("06", "06"), ("7", "07"), ("07", "07"), ("8", "08"), ("08", "08"), ("9", "09"),
      ("09", "09"), ("10", "10"), ("11", "11"), ("12", "12"), ("13", "13"), ("14", "14"),
      ("15", "15"), ("16", "16"), ("17", "17"), ("18", "18"), ("19", "19"), ("20", "20"),
      ("21", "21"), ("22", "22"), ("23", "23"), ("24", "24"), ("25", "25"), ("26", "26"),
      ("27", "27"), ("28", "28"), ("29", "29"), ("30", "30"), ("31", "31")]),
   ("normHour",
     [("0", "00"), ("00", "00"), ("1", "01"), ("01", "01"), ("2", "02"), ("02", "02"),
      ("3", "03"), ("03", "03"), ("4", "04"), ("04", "04"), ("5", "05"), ("05", "05"),
      ("6", "06"), ("06", "06"), ("7", "07"), ("07", "07"), ("8", "08"), ("08", "08"),
      ("9", "09"), ("09", "09"), ("10", "10"), ("11", "11"), ("12", "12"), ("13", "13"),
      ("14", "14"), ("15", "15"), ("16", "16"), ("17", "17"), ("18", "18"), ("19", "19"),
      ("20", "20"), ("21", "21"), ("22", "22"), ("23", "23"), ("24", "24")]),
   ("normSeason",
     [("printemps", "SP"), ("été", "SU"), ("automne", "FA"), ("hiver", "WI")]),
   ("normNumber",
     [("un", "1"), ("une", "1"), ("deux", "2"), ("trois", "3"), ("quatre", "4"), ("cinq", "5"),
      ("six", "6"), ("sept", "7"), ("huit", "8"), ("neuf", "9"), ("dix", "10"), ("onze", "11"),
      ("douze", "12")]),
   ("normUnit",
     [("jour", "day"), ("jours", "day"), ("semaine", "week"), ("semaines", "week"),
      ("la semaine", "week"), ("mois", "month"), ("le mois", "month"), ("trimestre", "quarter"),
      ("trimestres", "quarter"), ("an", "year"), ("ans", "year"), ("année", "year"),
      ("années", "year"), ("l'année", "year"), ("décennie", "decade"), ("décennies", "decade"),
      ("siècle", "century"), ("siècles", "century")]),
   ("normUnit4Duration",
     [("jour", "D"), ("jours", "D"), ("semaine", "W"), ("semaines", "W"), ("mois", "M"),
      ("trimestre", "Q"), ("trimestres", "Q"), ("an", "Y"), ("ans", "Y"), ("année", "Y"),
      ("années", "Y"), ("décennie", "DE"), ("décennies", "DE"), ("siècle", "CE"),
      ("siècles", "CE")]),
   ("normThisNextLast",
     [("dernier", "last"), ("dernière", "last"), ("prochain", "next"), ("prochaine", "next")])]

/-- The tags and words that show tense. -/
def tense : TenseTags :=
  { presentFuture := some "VER:pres"
    past := some "VER:(?:impf|simp)"
    future := some "VER:futu"
    futureWord := some ".+" }

/-- The date rules. -/
def dateRules : List RuleLine :=
  [{ name := "date_r0a"
     extraction := "(%reYear4Digit)-(%reMonthNumber)-(%reDayNumber)"
     value := "group(1)-%normMonth(group(2))-%normDay(group(3))"
     fastCheck := some "[0-9]-[0-9]" },
   { name := "date_r1a"
     extraction := "(%reDayNumber)/(%reMonthNumber)/(%reYear4Digit)"
     value := "group(3)-%normMonth(group(2))-%normDay(group(1))"
     fastCheck := some "[0-9]/[0-9]" },
   { name := "date_r3a"
     extraction := "(%reDayNumber) (%reMonthLong) (%reYear4Digit)"
     value := "group(3)-%normMonth(group(2))-%normDay(group(1))" },
   { name := "date_r4a"
     extraction := "(%reDayNumber) (%reMonthLong)"
     value := "UNDEF-year-%normMonth(group(2))-%normDay(group(1))" },
   { name := "date_r10a"
     extraction := "(%reMonthLong) (%reYear4Digit)"
     value := "group(2)-%normMonth(group(1))" },
   { name := "date_r14a"
     extraction := "(%reYear4Digit)"
     value := "group(1)"
     fastCheck := some "[0-9]\x7b4\x7d" },
   { name := "date_r14b"
     extraction := "(?:[Ee]n|[Dd]epuis) (%reYear4Digit)"
     value := "group(1)"
     offset := some "group(1)-group(1)"
     fastCheck := some "[0-9]\x7b4\x7d" },
   { name := "date_r19a"
     extraction := "(?:les )?années (%reYear3Digit)0"
     value := "group(1)"
     fastCheck := some "années" },
   { name := "date_r12a"
     extraction := "(%reSeason) (%reYear4Digit)"
     value := "group(2)-%normSeason(group(1))" },
   { name := "date_r20a"
     extraction := "(%reUnitPhrase) (dernier|dernière|prochain|prochaine)"
     value := "UNDEF-%normThisNextLast(group(2))-%normUnit(group(1))" },
   { name := "date_r8a"
     extraction := "([Aa]ujourd'hui)"
     value := "UNDEF-REF-day-PLUS-0" },
   { name := "date_r8b"
     extraction := "([Hh]ier)"
     value := "UNDEF-REF-day-MINUS-1" },
   { name := "date_r8c"
     extraction := "([Dd]emain)"
     value := "UNDEF-REF-day-PLUS-1" },
   { name := "date_r24a"
     extraction := "il y a (%reNumber) (%reUnitPlural|%reUnit)"
     value := "UNDEF-REF-%normUnit(group(2))-MINUS-%normNumber(group(1))"
     fastCheck := some "il y a" }]

/-- The time rules. -/
def timeRules : List RuleLine :=
  [{ name := "time_r1a"
     extraction := "(%reTimeHour)\\s?h\\s?(%reTimeMinute)"
     value := "UNDEF-this-dayT%normHour(group(1)):group(2)"
     fastCheck := some "[0-9]\\s?h" },
   { name := "time_r1b"
     extraction := "(%reTimeHour) heures"
     value := "UNDEF-this-dayT%normHour(group(1)):00"
     fastCheck := some "heures" }]

/-- The duration rules. -/
def durationRules : List RuleLine :=
  [{ name := "duration_r1a"
     extraction := "(%reNumber) (%reUnitPlural|%reUnit)"
     value := "P%normNumber(group(1))%normUnit4Duration(group(2))" },
   { name := "duration_r2a"
     extraction := "(?:plusieurs|quelques) (%reUnitPlural)"
     value := "PX%normUnit4Duration(group(1))" }]

/-- The set rules. -/
def setRules : List RuleLine :=
  [{ name := "set_r1a"
     extraction := "%reEvery (%reUnit|%reUnitPlural)"
     value := "P1%normUnit4Duration(group(1))"
     quant := some "EVERY" }]

/-- The temponym rules. -/
def temponymRules : List RuleLine :=
  [{ name := "temponym_r1a"
     extraction := "(?:la )?[Ss]econde [Gg]uerre mondiale"
     value := "[1939-09-01, 1945-09-02]" }]

/-- All of it. -/
def resources : Resources :=
  { vars := Table.ofList vars
    normalization := Normalization.ofSections sections
    tense := tense
    rules := fun
      | .date => dateRules
      | .time => timeRules
      | .duration => durationRules
      | .set => setRules
      | .temponym => temponymRules }

end TemporalTagger.Language.French
