import ResponseCheck.Unicode.CharSet
import ResponseCheck.Unicode.Runs

/-!
# Boundaries of grapheme clusters, words and sentences

For each of the three there is a property that says what a character does at a boundary. The tables
are lists of runs from U+0000 on: a length in base 36, then the value, or `XX` where there is none.
-/

namespace ResponseCheck.Unicode

/-- The runs of values of Grapheme_Cluster_Break. -/
def graphemeBreakRuns : Runs := labelledRuns [
  "aCN 1LF 2CN 1CR iCN 2nXX xCN dXX 1CN giXX 34EX 7nXX 7EX 7bXX 19EX 1XX 1EX 1XX 2EX 1XX 2EX 1XX",
  "1EX 1kXX 6PP aXX bEX 1XX 1CN 1aXX lEX gXX 1EX 2tXX 7EX 1PP 1XX 6EX 2XX 2EX 1XX 4EX xXX 1PP 1XX",
  "1EX uXX rEX 2jXX bEX 1mXX 9EX 9XX 1EX oXX 4EX 1XX 9EX 1XX 3EX 1XX 5EX 17XX 3EX 1gXX 2PP 5XX",
  "9EX 16XX oEX 1PP wEX 1SM 1iXX 1EX 1SM 1EX 1XX 3SM 8EX 4SM 1EX 2SM 1XX 7EX aXX 2EX tXX 1EX 2SM",
  "1kXX 1EX 1XX 1EX 2SM 4EX 2XX 2SM 2XX 2SM 1EX 9XX 1EX aXX 2EX qXX 1EX 2XX 2EX 1SM 1kXX 1EX 1XX",
  "3SM 2EX 4XX 2EX 2XX 3EX 3XX 1EX uXX 2EX 3XX 1EX bXX 2EX 1SM 1kXX 1EX 1XX 3SM 5EX 1XX 2EX 1SM",
  "1XX 2SM 1EX kXX 2EX mXX 6EX 1XX 1EX 2SM 1kXX 1EX 1XX 2EX 1SM 4EX 2XX 2SM 2XX 2SM 1EX 7XX 3EX",
  "aXX 2EX uXX 1EX 1nXX 1EX 1SM 1EX 2SM 3XX 3SM 1XX 3SM 1EX 9XX 1EX 14XX 1EX 3SM 1EX 1jXX 1EX 1XX",
  "3EX 4SM 1XX 3EX 1XX 4EX 7XX 2EX bXX 2EX tXX 1EX 2SM 1kXX 1EX 1XX 1SM 2EX 1SM 1EX 2SM 1XX 3EX",
  "1XX 4EX 7XX 2EX bXX 2EX fXX 1SM cXX 2EX 2SM 1jXX 2EX 1XX 1EX 2SM 4EX 1XX 3SM 1XX 3SM 1EX 1PP",
  "8XX 1EX aXX 2EX tXX 1EX 2SM 1yXX 1EX 4XX 1EX 2SM 3EX 1XX 1EX 1XX 7SM 1EX iXX 2SM 1pXX 1EX 1XX",
  "1SM 7EX cXX 8EX 2qXX 1EX 1XX 1SM 9EX bXX 7EX 21XX 2EX rXX 1EX 1XX 1EX 1XX 1EX 4XX 2SM 1dXX eEX",
  "1SM 5EX 1XX 2EX 5XX bEX 1XX 10EX 9XX 1EX 2uXX 4EX 1SM 6EX 1XX 2EX 2SM 2EX nXX 2SM 2EX 4XX 3EX",
  "gXX 4EX dXX 1EX 1XX 1SM 2EX 6XX 1EX fXX 1EX 2qXX 2oL 20V 2gT 9pXX 3EX qaXX 4EX sXX 3EX tXX 2EX",
  "uXX 2EX 1sXX 2EX 1SM 7EX 8SM 1EX 2SM bEX 9XX 1EX 19XX 3EX 1CN 1EX 39XX 2EX yXX 1EX 3aXX 3EX",
  "4SM 2EX 3SM 4XX 2SM 1EX 6SM 3EX 63XX 2EX 2SM 1EX 1lXX 1SM 1EX 1SM 7EX 1XX 1EX 1XX 1EX 2XX 8EX",
  "6SM aEX 2XX 1EX 1cXX vEX 1dXX 4EX 1SM 1bXX aEX 4SM 3EX 12XX 9EX cXX 2EX 1SM uXX 1SM 4EX 2SM",
  "6EX 1kXX 1EX 1SM 2EX 3SM 1EX 1SM 5EX 1cXX 8SM 8EX 2SM 2EX 48XX 3EX 1XX dEX 1SM 7EX 4XX 1EX 6XX",
  "1EX 2XX 1SM 2EX 5iXX 1sEX ejXX 1CN 1EX 1ZWJ 2CN oXX 7CN 1dXX gCN 2oXX xEX 2daXX 3EX 3xXX 1EX",
  "2oXX wEX feXX 6EX 2xXX 2EX n9wXX 4EX 1XX aEX wXX 2EX 28XX 2EX 7kXX 1EX 3XX 1EX 4XX 1EX nXX 2SM",
  "2EX 1SM 4XX 1EX 2bXX 2SM 1eXX gSM 2EX qXX iEX dXX 1EX 12XX 8EX pXX bEX 1SM 1EX cXX tL 3XX 3EX",
  "1SM 1bXX 1EX 2SM 4EX 2SM 2EX 2SM 1EX 10XX 1EX 1vXX 6EX 2SM 2EX 2SM 2EX cXX 1EX 8XX 1EX 1SM",
  "1aXX 1EX 1fXX 1EX 1XX 3EX 2XX 2EX 5XX 2EX 1XX 1EX 15XX 1SM 2EX 2SM 5XX 1SM 1EX 6kXX 2SM 1EX",
  "2SM 1EX 2SM 1XX 1SM 1EX iXX 1LV rLVT 1LV rLVT 1LV rLVT 1LV rLVT 1LV rLVT 1LV rLVT 1LV rLVT 1LV",
  "rLVT 1LV rLVT 1LV rLVT 1LV rLVT 1LV rLVT 1LV rLVT 1LV rLVT 1LV rLVT 1LV rLVT 1LV rLVT 1LV rLVT",
  "1LV rLVT 1LV rLVT 1LV rLVT 1LV rLVT 1LV rLVT 1LV rLVT 1LV rLVT 1LV rLVT 1LV rLVT 1LV rLVT 1LV",
  "rLVT 1LV rLVT 1LV rLVT 1LV rLVT 1LV rLVT 1LV rLVT 1LV rLVT 1LV rLVT 1LV rLVT 1LV rLVT 1LV rLVT",
  "1LV rLVT 1LV rLVT 1LV rLVT 1LV rLVT 1LV rLVT 1LV rLVT 1LV rLVT 1LV rLVT 1LV rLVT 1LV rLVT 1LV",
  "rLVT 1LV rLVT 1LV rLVT 1LV rLVT 1LV rLVT 1LV rLVT 1LV rLVT 1LV rLVT 1LV rLVT 1LV rLVT 1LV rLVT",
  "1LV rLVT 1LV rLVT 1LV rLVT 1LV rLVT 1LV rLVT 1LV rLVT 1LV rLVT 1LV rLVT 1LV rLVT 1LV rLVT 1LV",
  "rLVT 1LV rLVT 1LV rLVT 1LV rLVT 1LV rLVT 1LV rLVT 1LV rLVT 1LV rLVT 1LV rLVT 1LV rLVT 1LV rLVT",
  "1LV rLVT 1LV rLVT 1LV rLVT 1LV rLVT 1LV rLVT 1LV rLVT 1LV rLVT 1LV rLVT 1LV rLVT 1LV rLVT 1LV",
  "rLVT 1LV rLVT 1LV rLVT 1LV rLVT 1LV rLVT 1LV rLVT 1LV rLVT 1LV rLVT 1LV rLVT 1LV rLVT 1LV rLVT",
  "1LV rLVT 1LV rLVT 1LV rLVT 1LV rLVT 1LV rLVT 1LV rLVT 1LV rLVT 1LV rLVT 1LV rLVT 1LV rLVT 1LV",
  "rLVT 1LV rLVT 1LV rLVT 1LV rLVT 1LV rLVT 1LV rLVT 1LV rLVT 1LV rLVT 1LV rLVT 1LV rLVT 1LV rLVT",
  "1LV rLVT 1LV rLVT 1LV rLVT 1LV rLVT 1LV rLVT 1LV rLVT 1LV rLVT 1LV rLVT 1LV rLVT 1LV rLVT 1LV",
  "rLVT 1LV rLVT 1LV rLVT 1LV rLVT 1LV rLVT 1LV rLVT 1LV rLVT 1LV rLVT 1LV rLVT 1LV rLVT 1LV rLVT",
  "1LV rLVT 1LV rLVT 1LV rLVT 1LV rLVT 1LV rLVT 1LV rLVT 1LV rLVT 1LV rLVT 1LV rLVT 1LV rLVT 1LV",
  "rLVT 1LV rLVT 1LV rLVT 1LV rLVT 1LV rLVT 1LV rLVT 1LV rLVT 1LV rLVT 1LV rLVT 1LV rLVT 1LV rLVT",
  "1LV rLVT 1LV rLVT 1LV rLVT 1LV rLVT 1LV rLVT 1LV rLVT 1LV rLVT 1LV rLVT 1LV rLVT 1LV rLVT 1LV",
  "rLVT 1LV rLVT 1LV rLVT 1LV rLVT 1LV rLVT 1LV rLVT 1LV rLVT 1LV rLVT 1LV rLVT 1LV rLVT 1LV rLVT",
  "1LV rLVT 1LV rLVT 1LV rLVT 1LV rLVT 1LV rLVT 1LV rLVT 1LV rLVT 1LV rLVT 1LV rLVT 1LV rLVT 1LV",
  "rLVT 1LV rLVT 1LV rLVT 1LV rLVT 1LV rLVT 1LV rLVT 1LV rLVT 1LV rLVT 1LV rLVT 1LV rLVT 1LV rLVT",
  "1LV rLVT 1LV rLVT 1LV rLVT 1LV rLVT 1LV rLVT 1LV rLVT 1LV rLVT 1LV rLVT 1LV rLVT 1LV rLVT 1LV",
  "rLVT 1LV rLVT 1LV rLVT 1LV rLVT 1LV rLVT 1LV rLVT 1LV rLVT 1LV rLVT 1LV rLVT 1LV rLVT 1LV rLVT",
  "1LV rLVT 1LV rLVT 1LV rLVT 1LV rLVT 1LV rLVT 1LV rLVT 1LV rLVT 1LV rLVT 1LV rLVT 1LV rLVT 1LV",
  "rLVT 1LV rLVT 1LV rLVT 1LV rLVT 1LV rLVT 1LV rLVT 1LV rLVT 1LV rLVT 1LV rLVT 1LV rLVT 1LV rLVT",
  "1LV rLVT 1LV rLVT 1LV rLVT 1LV rLVT 1LV rLVT 1LV rLVT 1LV rLVT 1LV rLVT 1LV rLVT 1LV rLVT 1LV",
  "rLVT 1LV rLVT 1LV rLVT 1LV rLVT 1LV rLVT 1LV rLVT 1LV rLVT 1LV rLVT 1LV rLVT 1LV rLVT 1LV rLVT",
  "1LV rLVT 1LV rLVT 1LV rLVT 1LV rLVT 1LV rLVT 1LV rLVT 1LV rLVT 1LV rLVT 1LV rLVT 1LV rLVT 1LV",
  "rLVT 1LV rLVT 1LV rLVT 1LV rLVT 1LV rLVT 1LV rLVT 1LV rLVT 1LV rLVT 1LV rLVT 1LV rLVT 1LV rLVT",
  "1LV rLVT 1LV rLVT 1LV rLVT 1LV rLVT 1LV rLVT 1LV rLVT 1LV rLVT 1LV rLVT 1LV rLVT 1LV rLVT 1LV",
  "rLVT 1LV rLVT 1LV rLVT 1LV rLVT 1LV rLVT 1LV rLVT 1LV rLVT 1LV rLVT 1LV rLVT 1LV rLVT 1LV rLVT",
  "1LV rLVT 1LV rLVT 1LV rLVT 1LV rLVT 1LV rLVT 1LV rLVT 1LV rLVT 1LV rLVT 1LV rLVT 1LV rLVT 1LV",
  "rLVT 1LV rLVT 1LV rLVT 1LV rLVT 1LV rLVT 1LV rLVT 1LV rLVT 1LV rLVT 1LV rLVT 1LV rLVT 1LV rLVT",
  "1LV rLVT 1LV rLVT 1LV rLVT 1LV rLVT 1LV rLVT 1LV rLVT 1LV rLVT 1LV rLVT 1LV rLVT 1LV rLVT 1LV",
  "rLVT 1LV rLVT 1LV rLVT 1LV rLVT 1LV rLVT 1LV rLVT 1LV rLVT 1LV rLVT 1LV rLVT 1LV rLVT 1LV rLVT",
  "1LV rLVT 1LV rLVT 1LV rLVT 1LV rLVT 1LV rLVT 1LV rLVT 1LV rLVT 1LV rLVT 1LV rLVT 1LV rLVT 1LV",
  "rLVT 1LV rLVT 1LV rLVT 1LV rLVT 1LV rLVT 1LV rLVT 1LV rLVT 1LV rLVT 1LV rLVT 1LV rLVT 1LV rLVT",
  "1LV rLVT 1LV rLVT 1LV rLVT 1LV rLVT 1LV rLVT 1LV rLVT 1LV rLVT 1LV rLVT 1LV rLVT 1LV rLVT 1LV",
  "rLVT 1LV rLVT 1LV rLVT 1LV rLVT 1LV rLVT 1LV rLVT 1LV rLVT 1LV rLVT 1LV rLVT 1LV rLVT 1LV rLVT",
  "1LV rLVT 1LV rLVT 1LV rLVT cXX nV 4XX 1dT 6xuXX 1EX khXX gEX gXX gEX 5rXX 1CN 4eXX 2EX 28XX",
  "cCN e9XX 1EX 6aXX 1EX 45XX 5EX 1aeXX 3EX 1XX 2EX 5XX 4EX 14XX 3EX 4XX 1EX 4lXX 2EX fxXX 4EX",
  "1tXX 5EX 8tXX 2EX 27XX 4EX 1yXX bEX 1dXX 4EX 3eXX 1SM 1EX 1SM 1hXX fEX 15XX 1EX 2XX 2EX aXX",
  "3EX 1SM 19XX 3SM 4EX 2SM 2EX 2XX 1PP 4XX 1EX aXX 1PP 1eXX 3EX 10XX 5EX 1SM 8EX gXX 2SM 18XX",
  "1EX cXX 2EX 1SM 1cXX 3SM 9EX 1SM 1EX 1XX 2PP 5XX 4EX 1XX 1SM 1EX 2kXX 3SM 3EX 2SM 4EX 6XX 1EX",
  "2XX 1EX 4dXX 1EX 3SM 8EX lXX 2EX 2SM 1jXX 2EX 1XX 1EX 1SM 1EX 4SM 2XX 2SM 2XX 2SM 1EX 9XX 1EX",
  "aXX 2SM 2XX 7EX 3XX 5EX 1vXX 1EX 2SM 6EX 1XX 1EX 2XX 1EX 1XX 3EX 1SM 1XX 2SM 3EX 1PP 1EX eXX",
  "2EX 2aXX 3SM 8EX 2SM 3EX 1SM 1EX nXX 1EX 29XX 1EX 2SM 6EX 1SM 1EX 2SM 1EX 1SM 2EX 1SM 2EX 6jXX",
  "1EX 2SM 4EX 2XX 4SM 2EX 1SM 2EX rXX 2EX 2aXX 3SM 8EX 2SM 1EX 1SM 2EX 2yXX 1EX 1SM 1EX 2SM 8EX",
  "2tXX 1EX 1SM 1EX 2XX 4EX 1SM 5EX 74XX 3SM 9EX 1SM 2EX 6tXX 1EX 5SM 1XX 2SM 2XX 4EX 1PP 1SM 1PP",
  "1SM 1EX 3xXX 3SM 4EX 2XX 2EX 4SM 1EX 3XX 1SM sXX aEX 14XX 6EX 1SM 1PP 4EX 8XX 1EX 9XX 6EX 2SM",
  "3EX 14XX 6PP dEX 1SM 2EX b9XX 1SM 7EX 1XX 6EX 1SM 1EX 2aXX mEX 1XX 1SM 7EX 1SM 2EX 1SM 2EX",
  "3eXX 6EX 3XX 1EX 1XX 2EX 1XX 7EX 1PP 1EX 1uXX 5SM 1XX 2EX 1XX 2SM 1EX 1SM 1EX 9nXX 2EX 2SM 9XX",
  "2EX 1PP 1SM 1cXX 2SM 5EX 3XX 2SM 3EX nXX 1EX 445XX gCN 1EX 6XX fEX 8ugXX cEX 3SM 3EX 1xcXX 5EX",
  "1nXX 7EX fgXX 1V 3XX 4V dgXX 1EX 1XX 1jSM 7XX 4EX 29XX 1EX bXX 2EX f57XX 2EX 1XX 4CN 3mkXX",
  "1aEX 2XX nEX f2XX 5EX 3XX 6EX 8CN 8EX 2XX 7EX uXX 4EX 44XX 3EX 1izXX 1jEX 4XX 1eEX 8XX 1EX eXX",
  "1EX mXX 5EX 1XX fEX 11sXX 7EX 1XX hEX 2XX 7EX 1XX 2EX 1XX 5EX 2sXX 1EX 4gXX 7EX afXX 1EX 1pXX",
  "4EX e4XX 4EX 72XX 2EX kgXX 7EX 31XX 7EX 1p7XX qRI e3XX 5EX gx6oXX wCN 2oEX 3kCN 6oEX 2s0CN",
  "44jkXX"]

/-- The values of Grapheme_Cluster_Break with their normalized names. -/
def graphemeBreakNames : List (String × List String) := [
  ("CN", ["cn", "control"]),
  ("CR", ["cr"]),
  ("EX", ["ex", "extend"]),
  ("L", ["l"]),
  ("LF", ["lf"]),
  ("LV", ["lv"]),
  ("LVT", ["lvt"]),
  ("PP", ["pp", "prepend"]),
  ("RI", ["regionalindicator", "ri"]),
  ("SM", ["sm", "spacingmark"]),
  ("T", ["t"]),
  ("V", ["v"]),
  ("ZWJ", ["zwj"])]

/-- The runs of values of Word_Break. -/
def wordBreakRuns : Runs := labelledRuns [
  "aXX 1LF 2NL 1CR iXX 1WSegSpace 1XX 1DQ 4XX 1SQ 4XX 1MN 1XX 1MB 1XX aNU 1ML 1MN 5XX qLE 4XX 1EX",
  "1XX qLE aXX 1NL 10XX 1LE 2XX 1FO 7XX 1LE 1XX 1ML 2XX 1LE 5XX nLE 1XX vLE 1XX dcLE 6XX yLE",
  "34Extend 5LE 1XX 2LE 2XX 4LE 1MN 1LE 6XX 1LE 1ML 3LE 1XX 1LE 1XX kLE 1XX 2bLE 1XX 3vLE 1XX",
  "7Extend 4mLE 1XX 12LE 2XX 4LE 1XX 1LE 1ML 15LE 1MN 1LE 6XX 19Extend 1XX 1Extend 1XX 2Extend",
  "1XX 2Extend 1XX 1Extend 8XX rHL 4XX 4HL 1LE 1ML bXX 6NU 6XX 2MN 2XX bExtend 1XX 1FO 3XX 17LE",
  "lExtend aNU 1XX 1NU 1MN 1XX 2LE 1Extend 2rLE 1XX 1LE 7Extend 1NU 1XX 6Extend 2LE 2Extend 1XX",
  "4Extend 2LE aNU 3LE 2XX 1LE fXX 2LE 1Extend uLE rExtend 2XX 2hLE bExtend 1LE eXX aNU xLE",
  "9Extend 2LE 2XX 1MN 1XX 1LE 2XX 1Extend 2XX mLE 4Extend 1LE 9Extend 1LE 3Extend 1LE 5Extend",
  "iXX pLE 3Extend 4XX bLE 5XX oLE 1XX 6LE 1XX 2NU 5XX 9Extend 16LE oExtend 1NU xExtend 1iLE",
  "3Extend 1LE iExtend 1LE 7Extend aLE 2Extend 2XX aNU 1XX gLE 3Extend 1XX 8LE 2XX 2LE 2XX mLE",
  "1XX 7LE 1XX 1LE 3XX 4LE 2XX 1Extend 1LE 7Extend 2XX 2Extend 2XX 3Extend 1LE 8XX 1Extend 4XX",
  "2LE 1XX 3LE 2Extend 2XX aNU 2LE aXX 1LE 1XX 1Extend 2XX 3Extend 1XX 6LE 4XX 2LE 2XX mLE 1XX",
  "7LE 1XX 2LE 1XX 2LE 1XX 2LE 2XX 1Extend 1XX 5Extend 4XX 2Extend 2XX 3Extend 3XX 1Extend 7XX",
  "4LE 1XX 1LE 7XX aNU 2Extend 3LE 1Extend bXX 3Extend 1XX 9LE 1XX 3LE 1XX mLE 1XX 7LE 1XX 2LE",
  "1XX 5LE 2XX 1Extend 1LE 8Extend 1XX 3Extend 1XX 3Extend 2XX 1LE fXX 2LE 2Extend 2XX aNU 9XX",
  "1LE 6Extend 1XX 3Extend 1XX 8LE 2XX 2LE 2XX mLE 1XX 7LE 1XX 2LE 1XX 5LE 2XX 1Extend 1LE",
  "7Extend 2XX 2Extend 2XX 3Extend 7XX 3Extend 4XX 2LE 1XX 3LE 2Extend 2XX aNU 1XX 1LE gXX",
  "1Extend 1LE 1XX 6LE 3XX 3LE 1XX 4LE 3XX 2LE 1XX 1LE 1XX 2LE 3XX 2LE 3XX 3LE 3XX cLE 4XX",
  "5Extend 3XX 3Extend 1XX 4Extend 2XX 1LE 6XX 1Extend eXX aNU gXX 5Extend 8LE 1XX 3LE 1XX nLE",
  "1XX gLE 2XX 1Extend 1LE 7Extend 1XX 3Extend 1XX 4Extend 7XX 2Extend 1XX 3LE 2XX 1LE 2XX 2LE",
  "2Extend 2XX aNU gXX 1LE 3Extend 1XX 8LE 1XX 3LE 1XX nLE 1XX aLE 1XX 5LE 2XX 1Extend 1LE",
  "7Extend 1XX 3Extend 1XX 4Extend 7XX 2Extend 6XX 2LE 1XX 2LE 2Extend 2XX aNU 1XX 2LE 1Extend",
  "cXX 4Extend 9LE 1XX 3LE 1XX 15LE 2Extend 1LE 7Extend 1XX 3Extend 1XX 4Extend 1LE 5XX 3LE",
  "1Extend 7XX 3LE 2Extend 2XX aNU aXX 6LE 1XX 3Extend 1XX iLE 3XX oLE 1XX 9LE 1XX 1LE 2XX 7LE",
  "3XX 1Extend 4XX 6Extend 1XX 1Extend 1XX 8Extend 6XX aNU 2XX 2Extend 1pXX 1Extend 2XX 7Extend",
  "cXX 8Extend 1XX aNU 2fXX 1Extend 2XX 9Extend bXX 7Extend 1XX aNU 12XX 1LE nXX 2Extend 6XX aNU",
  "bXX 1Extend 1XX 1Extend 1XX 1Extend 4XX 2Extend 8LE 1XX 10LE 4XX kExtend 1XX 2Extend 5LE",
  "bExtend 1XX 10Extend 9XX 1Extend 2sXX kExtend 1XX aNU cXX 4Extend 4XX 3Extend 1XX 3Extend 2XX",
  "7Extend 3XX 4Extend dXX cExtend 1XX 1Extend aNU 4Extend 2XX 12LE 1XX 1LE 5XX 1LE 2XX 17LE 1XX",
  "99LE 1XX 4LE 2XX 7LE 1XX 1LE 1XX 4LE 2XX 15LE 1XX 4LE 2XX xLE 1XX 4LE 2XX 7LE 1XX 1LE 1XX 4LE",
  "2XX fLE 1XX 1lLE 1XX 4LE 2XX 1vLE 2XX 3Extend wXX gLE gXX 2eLE 2XX 6LE 3XX h8LE 2XX hLE",
  "1WSegSpace qLE 5XX 23LE 3XX bLE 7XX iLE 4Extend 9XX jLE 3Extend bXX iLE 2Extend cXX dLE 1XX",
  "3LE 1XX 2Extend 1sXX wExtend 9XX 1Extend 2XX aNU xXX 3Extend 1FO 1Extend aNU 6XX 2hLE 7XX 5LE",
  "2Extend yLE 1Extend 1LE 5XX 1yLE aXX vLE 1XX cExtend 4XX cExtend aXX aNU 3kXX bNU 11XX nLE",
  "5Extend 1lXX aExtend 1XX tExtend 2XX 1Extend aNU 6XX aNU mXX vExtend 1dXX 5Extend 1bLE hExtend",
  "8LE 3XX aNU hXX 9Extend cXX 3Extend uLE dExtend 2LE aNU 18LE eExtend cXX 10LE kExtend 8XX aNU",
  "3XX 3LE aNU 10LE 2XX bLE 5XX 17LE 2XX 3LE gXX 3Extend 1XX lExtend 4LE 1Extend 6LE 1Extend 2LE",
  "3Extend 1LE 5XX 5cLE 1sExtend 7qLE 2XX 6LE 2XX 12LE 2XX 6LE 2XX 8LE 1XX 1LE 1XX 1LE 1XX 1LE",
  "1XX vLE 2XX 1hLE 1XX 7LE 1XX 1LE 3XX 3LE 1XX 7LE 3XX 4LE 2XX 6LE 4XX dLE 5XX 3LE 1XX 7LE 3XX",
  "7WSegSpace 1XX 3WSegSpace 1XX 1Extend 1ZWJ 2FO 8XX 2MB aXX 1MB 2XX 1ML 2NL 5FO 1EX fXX 2EX 3XX",
  "1MN fXX 1EX aXX 1WSegSpace 5FO 1XX aFO 1XX 1LE dXX 1LE gXX dLE 1fXX xExtend hXX 1LE 4XX 1LE",
  "2XX aLE 1XX 1LE 3XX 5LE 6XX 1LE 1XX 1LE 1XX 1LE 1XX 4LE 1XX bLE 2XX 4LE 5XX 5LE 4XX 1LE hXX",
  "15LE mlXX 1gLE 1eeXX 6dLE 6XX 4LE 3Extend 2LE cXX 12LE 1XX 1LE 5XX 1LE 2XX 1kLE 7XX 1LE fXX",
  "1Extend nLE 9XX 7LE 1XX 7LE 1XX 7LE 1XX 7LE 1XX 7LE 1XX 7LE 1XX 7LE 1XX 7LE 1XX wExtend 1bXX",
  "1LE cwXX 1WSegSpace 4XX 1LE 10XX 6Extend 1XX 5KA 5XX 2LE 2kXX 2Extend 2KA 3XX 2jKA 1XX 4KA 5XX",
  "17LE 1XX 2mLE hXX wLE 1cXX gKA 5sXX 1bKA 1XX 2gKA lgoXX wdLE 1vXX 1aLE 2XX 7hLE 3XX gLE aNU",
  "2LE kXX 1bLE 4Extend 1XX aExtend 1XX vLE 2Extend 28LE 2Extend mXX 5iLE 2XX 2LE 1XX 1LE 1XX 8LE",
  "lXX gLE 1Extend 3LE 1Extend 4LE 1Extend nLE 5Extend 4XX 1Extend jXX 1gLE cXX 2Extend 1eLE",
  "iExtend aXX aNU 6XX iExtend 6LE 3XX 1LE 1XX 2LE 1Extend aNU sLE 8Extend 2XX nLE dExtend cXX",
  "tLE 3XX 4Extend 1bLE eExtend eXX 1LE aNU bXX 1Extend aXX aNU 6XX 15LE eExtend 9XX 3LE 1Extend",
  "8LE 2Extend 2XX aNU xXX 3Extend 1eXX 1Extend 1XX 3Extend 2XX 2Extend 5XX 2Extend 1XX 1Extend",
  "uXX bLE 5Extend 2XX 3LE 2Extend aXX 6LE 2XX 6LE 2XX 6LE 9XX 7LE 1XX 7LE 1XX 1mLE 6XX 37LE",
  "8Extend 1XX 2Extend 2XX aNU 6XX 8mcLE cXX nLE 4XX 1dLE 6x0XX 7LE cXX 5LE 5XX 1HL 1Extend aHL",
  "1XX dHL 1XX 5HL 1XX 1HL 1XX 2HL 1XX 2HL 1XX aHL 2qLE xXX a3LE iXX 1sLE 2XX 1iLE 14XX cLE 4XX",
  "gExtend 3XX 1ML cXX gExtend 3XX 2EX oXX 3EX 1MN 1XX 1MB 1XX 1MN 1ML qXX 5LE 1XX 3rLE 2XX 1FO",
  "7XX 1MB 4XX 1MN 1XX 1MB 1XX aNU 1ML 1MN 5XX qLE 4XX 1EX 1XX qLE bXX 1kKA 2Extend vLE 3XX 6LE",
  "2XX 6LE 2XX 6LE 2XX 3LE sXX 3FO 4XX cLE 1XX qLE 1XX jLE 1XX 2LE 1XX fLE 2XX eLE yXX 3fLE 1xXX",
  "1hLE 3sXX 1Extend 3mXX tLE 3XX 1dLE fXX 1Extend vXX wLE dXX uLE 5XX 12LE 5Extend 5XX uLE 2XX",
  "10LE 4XX 8LE 1XX 5LE 16XX 4eLE 2XX aNU 6XX 10LE 4XX 10LE 4XX 14LE 8XX 1gLE cXX bLE 1XX fLE 1XX",
  "7LE 1XX 2LE 1XX bLE 1XX fLE 1XX 7LE 1XX 2LE 3XX 1gLE cXX 8nLE 9XX mLE aXX 8LE oXX 6LE 1XX 16LE",
  "1XX 9LE 1xXX 6LE 2XX 1LE 1XX 18LE 1XX 2LE 3XX 1LE 2XX nLE aXX nLE 9XX vLE 1tXX jLE 1XX 2LE aXX",
  "mLE aXX qLE 1yXX 1kLE 6XX 2LE 1sXX 1LE 3Extend 1XX 2Extend 5XX 4Extend 4LE 1XX 3LE 1XX tLE 2XX",
  "3Extend 4XX 1Extend wXX tLE 3XX tLE zXX 8LE 1XX sLE 2Extend pXX 1iLE aXX mLE aXX jLE dXX iLE",
  "32XX 21LE 1jXX 1fLE dXX 1fLE dXX 10LE 4Extend 8XX aNU 6XX aNU sLE 3XX 5Extend 1XX nLE 6yXX",
  "16LE 1XX 2Extend 3XX 2LE gXX 3LE 1jXX 4Extend tLE aXX 1LE 8XX mLE bExtend vXX iLE 4Extend 16XX",
  "lLE rXX nLE 9XX 3Extend 1hLE fExtend vXX aNU 1Extend 2LE 2Extend 1LE 9XX 4Extend 19LE bExtend",
  "2XX 1NU 4XX 1Extend aXX 1NU 2XX pLE 7XX aNU 6XX 3Extend 10LE eExtend 1XX aNU 4XX 1LE 2Extend",
  "1LE 8XX zLE 1Extend 2XX 1LE 9XX 3Extend 1cLE eExtend 4LE 4XX 4Extend 1XX 2Extend aNU 1LE 1XX",
  "1LE zXX iLE 1XX pLE cExtend 6XX 1Extend 2LE 1Extend 1qXX 7LE 1XX 1LE 1XX 4LE 1XX fLE 1XX aLE",
  "7XX 1bLE cExtend 5XX aNU 6XX 4Extend 1XX 8LE 2XX 2LE 2XX mLE 1XX 7LE 1XX 2LE 1XX 5LE 1XX",
  "2Extend 1LE 7Extend 2XX 2Extend 2XX 3Extend 2XX 1LE 6XX 1Extend 5XX 5LE 2Extend 2XX 7Extend",
  "3XX 5Extend bXX aLE 1XX 1LE 2XX 1LE 1XX 12LE 1XX 1LE 9Extend 1XX 1Extend 2XX 1Extend 1XX",
  "4Extend 1XX 5Extend 1LE 1Extend 1LE dXX 2Extend tXX 1hLE iExtend 4LE 5XX aNU 4XX 1Extend 3LE",
  "uXX 1cLE kExtend 2LE 1XX 1LE 8XX aNU 4mXX 1bLE 7Extend 2XX 9Extend nXX 4LE 2Extend yXX 1cLE",
  "hExtend 3XX 1LE bXX aNU 12XX 17LE dExtend 1LE 7XX aNU 6XX kNU 1lXX fExtend 4XX aNU 5iXX 18LE",
  "fExtend 2tXX 1sLE aNU lXX 8LE 2XX 1LE 2XX 8LE 1XX 2LE 1XX oLE 6Extend 1XX 2Extend 2XX 4Extend",
  "1LE 1Extend 1LE 2Extend cXX aNU 1yXX 8LE 2XX 13LE 7Extend 2XX 7Extend 1LE 1XX 1LE 1Extend rXX",
  "1LE aExtend 14LE 7Extend 1LE 4Extend 8XX 1Extend 8XX 1LE bExtend 1aLE gExtend 3XX 1LE iXX 21LE",
  "5jXX xLE fXX aNU 6XX 9LE 1XX 11LE 8Extend 1XX 8Extend 1LE fXX aNU oXX uLE 2XX mExtend 1XX",
  "eExtend 21XX 7LE 1XX 2LE 1XX 12LE 6Extend 3XX 1Extend 1XX 2Extend 1XX 7Extend 1LE 1Extend 8XX",
  "aNU 6XX 6LE 1XX 2LE 1XX wLE 5Extend 1XX 2Extend 1XX 5Extend 1LE 7XX aNU 8mXX jLE 4Extend 9XX",
  "2Extend 1LE 1Extend dLE 1XX yLE 7Extend 3XX 5Extend dXX aNU 1Extend 2dXX 1LE 27XX pmLE 2uXX",
  "33LE hXX 5gLE 218XX 2pLE fXX tsLE gFO 1Extend 6LE fExtend aXX 32zLE 5XX g7LE 5a1XX uLE iExtend",
  "aNU 1c6XX ftLE 7XX vLE 1XX aNU 6XX 27LE 1XX aNU 6XX uLE 2XX 5Extend bXX 1cLE 7Extend 9XX 4LE",
  "cXX aNU 9XX lLE 5XX jLE c0XX 19LE 3XX aNU 5iXX 1sLE 3kXX 23LE 4XX 1Extend 1LE 1jExtend 7XX",
  "4Extend dLE 1sXX 2LE 1XX 1LE 1Extend bXX 2Extend cn2XX 4KA 1XX 7KA 1XX 2KA 1XX 1KA 7zXX 3KA",
  "1eXX 1KA eXX 4KA 23cXX 2zLE 5XX dLE 3XX 9LE 7XX aLE 3XX 2Extend 1XX 4FO 37wXX aNU eeXX",
  "1aExtend 2XX nExtend f2XX 5Extend 3XX 6Extend 8FO 8Extend 2XX 7Extend uXX 4Extend 44XX 3Extend",
  "cbXX 2dLE 1XX 1zLE 1XX 2LE 2XX 1LE 2XX 2LE 2XX 4LE 1XX cLE 1XX 1LE 1XX 7LE 1XX 1tLE 1XX 4LE",
  "2XX 8LE 1XX 7LE 1XX sLE 1XX 4LE 1XX 5LE 1XX 1LE 3XX 7LE 1XX 9gLE 2XX pLE 1XX pLE 1XX vLE 1XX",
  "pLE 1XX vLE 1XX pLE 1XX vLE 1XX pLE 1XX vLE 1XX pLE 1XX 8LE 2XX 1eNU e8XX 1jExtend 4XX",
  "1eExtend 8XX 1Extend eXX 1Extend mXX 5Extend 1XX fExtend uoXX vLE 6XX 6LE 5xXX 7Extend 1XX",
  "hExtend 2XX 7Extend 1XX 2Extend 1XX 5Extend 5XX 1qLE xXX 1Extend 34XX 19LE 3XX 7Extend 7LE 2XX",
  "aNU 4XX 1LE 8xXX uLE 1Extend hXX 18LE 4Extend aNU d2XX sLE 4Extend aNU 5yXX uLE 2Extend 1LE",
  "aNU dhXX 7LE 1XX 4LE 1XX 2LE 1XX fLE 1XX 5hLE bXX 7Extend 15XX 1wLE 7Extend 1LE 4XX aNU x2XX",
  "4LE 1XX rLE 1XX 2LE 1XX 1LE 2XX 1LE 1XX aLE 1XX 4LE 1XX 1LE 1XX 1LE 6XX 1LE 4XX 1LE 1XX 1LE",
  "1XX 1LE 1XX 3LE 1XX 2LE 1XX 1LE 2XX 1LE 1XX 1LE 1XX 1LE 1XX 1LE 1XX 1LE 1XX 2LE 1XX 1LE 2XX",
  "4LE 1XX 7LE 1XX 4LE 1XX 4LE 1XX 1LE 1XX aLE 1XX hLE 5XX 3LE 1XX 5LE 1XX hLE hgXX qLE 6XX qLE",
  "6XX qLE 2kXX qRI e3XX 5Extend 1kgXX aNU gvlzXX 1FO uXX 2oExtend 3kXX 6oExtend 47bkXX"]

/-- The values of Word_Break with their normalized names. -/
def wordBreakNames : List (String × List String) := [
  ("CR", ["cr"]),
  ("DQ", ["doublequote", "dq"]),
  ("EX", ["ex", "extendnumlet"]),
  ("Extend", ["extend"]),
  ("FO", ["fo", "format"]),
  ("HL", ["hebrewletter", "hl"]),
  ("KA", ["ka", "katakana"]),
  ("LE", ["aletter", "le"]),
  ("LF", ["lf"]),
  ("MB", ["mb", "midnumlet"]),
  ("ML", ["midletter", "ml"]),
  ("MN", ["midnum", "mn"]),
  ("NL", ["newline", "nl"]),
  ("NU", ["nu", "numeric"]),
  ("RI", ["regionalindicator", "ri"]),
  ("SQ", ["singlequote", "sq"]),
  ("WSegSpace", ["wsegspace"]),
  ("ZWJ", ["zwj"])]

/-- The runs of values of Sentence_Break. -/
def sentenceBreakRuns : Runs := labelledRuns [
  "9XX 1SP 1LF 2SP 1CR iXX 1SP 1ST 1CL 4XX 3CL 2XX 2SC 1AT 1XX aNU 2SC 3XX 1ST 1XX qUP 1CL 1XX",
  "1CL 3XX qLO 1CL 1XX 1CL 7XX 1SE qXX 1SP 9XX 1LO 1CL 1XX 1FO 7XX 1LO 4XX 1LO 1CL 4XX nUP 1XX",
  "7UP oLO 1XX 8LO 1UP 1LO 1UP 1LO 1UP 1LO 1UP 1LO 1UP 1LO 1UP 1LO 1UP 1LO 1UP 1LO 1UP 1LO 1UP",
  "1LO 1UP 1LO 1UP 1LO 1UP 1LO 1UP 1LO 1UP 1LO 1UP 1LO 1UP 1LO 1UP 1LO 1UP 1LO 1UP 1LO 1UP 1LO",
  "1UP 1LO 1UP 1LO 1UP 1LO 1UP 1LO 1UP 1LO 1UP 1LO 1UP 2LO 1UP 1LO 1UP 1LO 1UP 1LO 1UP 1LO 1UP",
  "1LO 1UP 1LO 1UP 1LO 1UP 2LO 1UP 1LO 1UP 1LO 1UP 1LO 1UP 1LO 1UP 1LO 1UP 1LO 1UP 1LO 1UP 1LO",
  "1UP 1LO 1UP 1LO 1UP 1LO 1UP 1LO 1UP 1LO 1UP 1LO 1UP 1LO 1UP 1LO 1UP 1LO 1UP 1LO 1UP 1LO 1UP",
  "1LO 1UP 1LO 1UP 1LO 1UP 1LO 2UP 1LO 1UP 1LO 1UP 3LO 2UP 1LO 1UP 1LO 2UP 1LO 3UP 2LO 4UP 1LO",
  "2UP 1LO 3UP 3LO 2UP 1LO 2UP 1LO 1UP 1LO 1UP 1LO 2UP 1LO 1UP 2LO 1UP 1LO 2UP 1LO 3UP 1LO 1UP",
  "1LO 2UP 2LO 1LE 1UP 3LO 4LE 2UP 1LO 2UP 1LO 2UP 1LO 1UP 1LO 1UP 1LO 1UP 1LO 1UP 1LO 1UP 1LO",
  "1UP 1LO 1UP 1LO 1UP 2LO 1UP 1LO 1UP 1LO 1UP 1LO 1UP 1LO 1UP 1LO 1UP 1LO 1UP 1LO 1UP 1LO 1UP",
  "2LO 2UP 1LO 1UP 1LO 3UP 1LO 1UP 1LO 1UP 1LO 1UP 1LO 1UP 1LO 1UP 1LO 1UP 1LO 1UP 1LO 1UP 1LO",
  "1UP 1LO 1UP 1LO 1UP 1LO 1UP 1LO 1UP 1LO 1UP 1LO 1UP 1LO 1UP 1LO 1UP 1LO 1UP 1LO 1UP 1LO 1UP",
  "1LO 1UP 1LO 1UP 1LO 1UP 1LO 1UP 1LO 1UP 1LO 1UP 1LO 1UP 1LO 1UP 1LO 1UP 7LO 2UP 1LO 2UP 2LO",
  "1UP 1LO 4UP 1LO 1UP 1LO 1UP 1LO 1UP 1LO 1UP 1xLO 1LE 10LO 7LE 2LO 4XX cLE eXX 5LO 7XX 1LE 1XX",
  "1LE hXX 34EX 1UP 1LO 1UP 1LO 1LE 1XX 1UP 1LO 2XX 4LO 1SC 1UP 6XX 1UP 1XX 3UP 1XX 1UP 1XX 2UP",
  "1LO hUP 1XX 9UP zLO 1UP 2LO 3UP 3LO 1UP 1LO 1UP 1LO 1UP 1LO 1UP 1LO 1UP 1LO 1UP 1LO 1UP 1LO",
  "1UP 1LO 1UP 1LO 1UP 1LO 1UP 1LO 1UP 5LO 1UP 1LO 1XX 1UP 1LO 2UP 2LO 1fUP 1cLO 1UP 1LO 1UP 1LO",
  "1UP 1LO 1UP 1LO 1UP 1LO 1UP 1LO 1UP 1LO 1UP 1LO 1UP 1LO 1UP 1LO 1UP 1LO 1UP 1LO 1UP 1LO 1UP",
  "1LO 1UP 1LO 1UP 1LO 1UP 1LO 1XX 7EX 1UP 1LO 1UP 1LO 1UP 1LO 1UP 1LO 1UP 1LO 1UP 1LO 1UP 1LO",
  "1UP 1LO 1UP 1LO 1UP 1LO 1UP 1LO 1UP 1LO 1UP 1LO 1UP 1LO 1UP 1LO 1UP 1LO 1UP 1LO 1UP 1LO 1UP",
  "1LO 1UP 1LO 1UP 1LO 1UP 1LO 1UP 1LO 1UP 1LO 1UP 1LO 1UP 1LO 1UP 1LO 2UP 1LO 1UP 1LO 1UP 1LO",
  "1UP 1LO 1UP 1LO 1UP 1LO 1UP 2LO 1UP 1LO 1UP 1LO 1UP 1LO 1UP 1LO 1UP 1LO 1UP 1LO 1UP 1LO 1UP",
  "1LO 1UP 1LO 1UP 1LO 1UP 1LO 1UP 1LO 1UP 1LO 1UP 1LO 1UP 1LO 1UP 1LO 1UP 1LO 1UP 1LO 1UP 1LO",
  "1UP 1LO 1UP 1LO 1UP 1LO 1UP 1LO 1UP 1LO 1UP 1LO 1UP 1LO 1UP 1LO 1UP 1LO 1UP 1LO 1UP 1LO 1UP",
  "1LO 1UP 1LO 1UP 1LO 1UP 1LO 1UP 1LO 1UP 1LO 1UP 1LO 1UP 1LO 1UP 1LO 1UP 1LO 1UP 1LO 1UP 1LO",
  "1UP 1LO 1UP 1LO 1UP 1LO 1UP 1LO 1UP 1LO 1UP 1LO 1XX 12UP 2XX 1LE 3XX 1SC 2XX 15LO 1ST 7XX 19EX",
  "1XX 1EX 1XX 2EX 1XX 2EX 1XX 1EX 8XX rLE 4XX 5LE cXX 6NU 6XX 2SC 2XX bEX 1XX 1FO 3ST 17LE lEX",
  "aNU 1XX 2NU 1XX 2LE 1EX 2rLE 1ST 1LE 7EX 1NU 1XX 6EX 2LE 2EX 1XX 4EX 2LE aNU 3LE 2XX 1LE 3ST",
  "cXX 1FO 1LE 1EX uLE rEX 2XX 2hLE bEX 1LE eXX aNU xLE 9EX 2LE 2XX 1SC 1ST 1LE 2XX 1EX 2XX mLE",
  "4EX 1LE 9EX 1LE 3EX 1LE 5EX 9XX 1ST 1XX 1ST 3XX 2ST 1XX pLE 3EX 4XX bLE 5XX oLE 1XX 6LE 1XX",
  "2NU 5XX 9EX 16LE oEX 1NU xEX 1iLE 3EX 1LE iEX 1LE 7EX aLE 2EX 2ST aNU 1XX gLE 3EX 1XX 8LE 2XX",
  "2LE 2XX mLE 1XX 7LE 1XX 1LE 3XX 4LE 2XX 1EX 1LE 7EX 2XX 2EX 2XX 3EX 1LE 8XX 1EX 4XX 2LE 1XX",
  "3LE 2EX 2XX aNU 2LE aXX 1LE 1XX 1EX 2XX 3EX 1XX 6LE 4XX 2LE 2XX mLE 1XX 7LE 1XX 2LE 1XX 2LE",
  "1XX 2LE 2XX 1EX 1XX 5EX 4XX 2EX 2XX 3EX 3XX 1EX 7XX 4LE 1XX 1LE 7XX aNU 2EX 3LE 1EX bXX 3EX",
  "1XX 9LE 1XX 3LE 1XX mLE 1XX 7LE 1XX 2LE 1XX 5LE 2XX 1EX 1LE 8EX 1XX 3EX 1XX 3EX 2XX 1LE fXX",
  "2LE 2EX 2XX aNU 9XX 1LE 6EX 1XX 3EX 1XX 8LE 2XX 2LE 2XX mLE 1XX 7LE 1XX 2LE 1XX 5LE 2XX 1EX",
  "1LE 7EX 2XX 2EX 2XX 3EX 7XX 3EX 4XX 2LE 1XX 3LE 2EX 2XX aNU 1XX 1LE gXX 1EX 1LE 1XX 6LE 3XX",
  "3LE 1XX 4LE 3XX 2LE 1XX 1LE 1XX 2LE 3XX 2LE 3XX 3LE 3XX cLE 4XX 5EX 3XX 3EX 1XX 4EX 2XX 1LE",
  "6XX 1EX eXX aNU gXX 5EX 8LE 1XX 3LE 1XX nLE 1XX gLE 2XX 1EX 1LE 7EX 1XX 3EX 1XX 4EX 7XX 2EX",
  "1XX 3LE 2XX 1LE 2XX 2LE 2EX 2XX aNU gXX 1LE 3EX 1XX 8LE 1XX 3LE 1XX nLE 1XX aLE 1XX 5LE 2XX",
  "1EX 1LE 7EX 1XX 3EX 1XX 4EX 7XX 2EX 6XX 2LE 1XX 2LE 2EX 2XX aNU 1XX 2LE 1EX cXX 4EX 9LE 1XX",
  "3LE 1XX 15LE 2EX 1LE 7EX 1XX 3EX 1XX 4EX 1LE 5XX 3LE 1EX 7XX 3LE 2EX 2XX aNU aXX 6LE 1XX 3EX",
  "1XX iLE 3XX oLE 1XX 9LE 1XX 1LE 2XX 7LE 3XX 1EX 4XX 6EX 1XX 1EX 1XX 8EX 6XX aNU 2XX 2EX dXX",
  "1cLE 1EX 2LE 7EX 5XX 7LE 8EX 1XX aNU 13XX 2LE 1XX 1LE 1XX 5LE 1XX oLE 1XX 1LE 1XX aLE 1EX 2LE",
  "9EX 1LE 2XX 5LE 1XX 1LE 1XX 7EX 1XX aNU 2XX 4LE wXX 1LE nXX 2EX 6XX aNU bXX 1EX 1XX 1EX 1XX",
  "1EX 4CL 2EX 8LE 1XX 10LE 4XX kEX 1XX 2EX 5LE bEX 1XX 10EX 9XX 1EX 1lXX 17LE kEX 1LE aNU 2ST",
  "4XX 6LE 4EX 4LE 3EX 1LE 3EX 2LE 7EX 3LE 4EX dLE cEX 1LE 1EX aNU 4EX 2XX 12UP 1XX 1UP 5XX 1UP",
  "2XX 17LE 1XX 1LO 98LE 1XX 4LE 2XX 7LE 1XX 1LE 1XX 4LE 2XX 15LE 1XX 4LE 2XX xLE 1XX 4LE 2XX 7LE",
  "1XX 1LE 1XX 4LE 2XX fLE 1XX 1lLE 1XX 4LE 2XX 1vLE 2XX 3EX 2XX 1ST 4XX 2ST nXX gLE gXX 2eUP 2XX",
  "6LO 3XX h8LE 1XX 1ST hLE 1SP qLE 2CL 3XX 23LE 3XX bLE 7XX iLE 4EX 9XX jLE 3EX 2ST 9XX iLE 2EX",
  "cXX dLE 1XX 3LE 1XX 2EX cXX 1gLE wEX 2ST 1XX 1LE 4XX 1LE 1EX 2XX aNU oXX 1SC 1ST 4XX 1SC 1ST",
  "1XX 3EX 1FO 1EX aNU 6XX 2hLE 7XX 5LE 2EX yLE 1EX 1LE 5XX 1yLE aXX vLE 1XX cEX 4XX cEX 8XX 2ST",
  "aNU uLE 2XX 5LE bXX 18LE 4XX qLE 6XX bNU 11XX nLE 5EX 4XX 1hLE aEX 1XX tEX 2XX 1EX aNU 6XX aNU",
  "dXX 1LE 4ST 4XX vEX 1dXX 5EX 1bLE hEX 8LE 1XX 2ST aNU 2ST 2XX 2ST bXX 9EX 9XX 3ST 3EX uLE dEX",
  "2LE aNU 18LE eEX cXX 10LE kEX 3XX 2ST 3XX aNU 3XX 3LE aNU 10LE 2ST 9LO 1UP 1LO 5XX 17LE 2XX",
  "3LE gXX 3EX 1XX lEX 4LE 1EX 6LE 1EX 2LE 3EX 1LE 5XX 5cLO 1sEX 1UP 1LO 1UP 1LO 1UP 1LO 1UP 1LO",
  "1UP 1LO 1UP 1LO 1UP 1LO 1UP 1LO 1UP 1LO 1UP 1LO 1UP 1LO 1UP 1LO 1UP 1LO 1UP 1LO 1UP 1LO 1UP",
  "1LO 1UP 1LO 1UP 1LO 1UP 1LO 1UP 1LO 1UP 1LO 1UP 1LO 1UP 1LO 1UP 1LO 1UP 1LO 1UP 1LO 1UP 1LO",
  "1UP 1LO 1UP 1LO 1UP 1LO 1UP 1LO 1UP 1LO 1UP 1LO 1UP 1LO 1UP 1LO 1UP 1LO 1UP 1LO 1UP 1LO 1UP",
  "1LO 1UP 1LO 1UP 1LO 1UP 1LO 1UP 1LO 1UP 1LO 1UP 1LO 1UP 1LO 1UP 1LO 1UP 1LO 1UP 1LO 1UP 1LO",
  "1UP 1LO 1UP 1LO 1UP 1LO 1UP 1LO 1UP 1LO 1UP 1LO 1UP 1LO 1UP 1LO 1UP 1LO 1UP 1LO 1UP 1LO 1UP",
  "1LO 1UP 1LO 1UP 1LO 1UP 1LO 1UP 1LO 1UP 1LO 1UP 1LO 1UP 1LO 1UP 1LO 1UP 1LO 1UP 1LO 1UP 1LO",
  "1UP 1LO 1UP 9LO 1UP 1LO 1UP 1LO 1UP 1LO 1UP 1LO 1UP 1LO 1UP 1LO 1UP 1LO 1UP 1LO 1UP 1LO 1UP",
  "1LO 1UP 1LO 1UP 1LO 1UP 1LO 1UP 1LO 1UP 1LO 1UP 1LO 1UP 1LO 1UP 1LO 1UP 1LO 1UP 1LO 1UP 1LO",
  "1UP 1LO 1UP 1LO 1UP 1LO 1UP 1LO 1UP 1LO 1UP 1LO 1UP 1LO 1UP 1LO 1UP 1LO 1UP 1LO 1UP 1LO 1UP",
  "1LO 1UP 1LO 1UP 1LO 1UP 1LO 1UP 1LO 1UP 1LO 1UP 1LO 1UP 1LO 1UP 1LO 1UP 1LO 1UP 1LO 1UP 1LO",
  "1UP 1LO 1UP 1LO 1UP 1LO 1UP 1LO 1UP 9LO 8UP 6LO 2XX 6UP 2XX 8LO 8UP 8LO 8UP 6LO 2XX 6UP 2XX",
  "8LO 1XX 1UP 1XX 1UP 1XX 1UP 1XX 1UP 8LO 8UP eLO 2XX 8LO 8UP 8LO 8UP 8LO 8UP 5LO 1XX 2LO 5UP",
  "1XX 1LO 3XX 3LO 1XX 2LO 5UP 3XX 4LO 2XX 2LO 4UP 4XX 8LO 5UP 5XX 3LO 1XX 2LO 5UP 3XX bSP 1FO",
  "2EX 2FO 3XX 2SC 3XX 8CL 4XX 1AT 3XX 2SE 5FO 1SP 9XX 2CL 1XX 2ST 7XX 2CL 3ST lXX 1SP 5FO 1XX",
  "aFO 1XX 1LO bXX 2CL 1LO dXX 2CL 1XX dLO 1fXX xEX hXX 1UP 4XX 1UP 2XX 1LO 3UP 2LO 3UP 1LO 1XX",
  "1UP 3XX 5UP 6XX 1UP 1XX 1UP 1XX 1UP 1XX 4UP 1XX 1LO 4UP 1LO 4LE 1LO 2XX 2LO 2UP 5XX 1UP 4LO",
  "4XX 1LO hXX gUP gLO 3LE 1UP 1LO 4LE anXX 4CL tXX 2CL azXX qUP qLO hdXX 6CL 7XX eCL 27XX 2CL",
  "vXX aCL b7XX mCL 1rXX 4CL wXX 2CL eaXX 1cUP 1cLO 1UP 1LO 3UP 2LO 1UP 1LO 1UP 1LO 1UP 1LO 4UP",
  "1LO 1UP 2LO 1UP 8LO 3UP 1LO 1UP 1LO 1UP 1LO 1UP 1LO 1UP 1LO 1UP 1LO 1UP 1LO 1UP 1LO 1UP 1LO",
  "1UP 1LO 1UP 1LO 1UP 1LO 1UP 1LO 1UP 1LO 1UP 1LO 1UP 1LO 1UP 1LO 1UP 1LO 1UP 1LO 1UP 1LO 1UP",
  "1LO 1UP 1LO 1UP 1LO 1UP 1LO 1UP 1LO 1UP 1LO 1UP 1LO 1UP 1LO 1UP 1LO 1UP 1LO 1UP 1LO 1UP 1LO",
  "1UP 1LO 1UP 1LO 1UP 1LO 1UP 1LO 1UP 1LO 1UP 1LO 1UP 1LO 1UP 1LO 1UP 1LO 1UP 1LO 1UP 1LO 1UP",
  "1LO 1UP 1LO 1UP 1LO 1UP 1LO 1UP 1LO 1UP 1LO 1UP 2LO 6XX 1UP 1LO 1UP 1LO 3EX 1UP 1LO 5XX 3ST",
  "4XX 12LO 1XX 1LO 5XX 1LO 2XX 1kLE 7XX 1LE fXX 1EX nLE 9XX 7LE 1XX 7LE 1XX 7LE 1XX 7LE 1XX 7LE",
  "1XX 7LE 1XX 7LE 1XX 7LE 1XX wEX eCL eXX 2CL 2XX aCL 4XX 1ST 1LE cXX 1ST 5XX 1CL gXX 2ST 8CL",
  "bnXX 1SP 1SC 1ST 2XX 3LE aCL 2XX 8CL 1XX 3CL 1XX 9LE 6EX 1XX 5LE 2XX 5LE 4XX 2eLE 2XX 2EX 2XX",
  "3LE 1XX 2iLE 1XX 4LE 5XX 17LE 1XX 2mLE hXX wLE 1cXX gLE e8XX 534LE 1sXX h3hLE 1vXX 1aLE 1XX",
  "1ST 7hLE 1XX 2ST gLE aNU 2LE kXX 1UP 1LO 1UP 1LO 1UP 1LO 1UP 1LO 1UP 1LO 1UP 1LO 1UP 1LO 1UP",
  "1LO 1UP 1LO 1UP 1LO 1UP 1LO 1UP 1LO 1UP 1LO 1UP 1LO 1UP 1LO 1UP 1LO 1UP 1LO 1UP 1LO 1UP 1LO",
  "1UP 1LO 1UP 1LO 1UP 1LO 1UP 1LO 1LE 4EX 1XX aEX 1XX 1LE 1UP 1LO 1UP 1LO 1UP 1LO 1UP 1LO 1UP",
  "1LO 1UP 1LO 1UP 1LO 1UP 1LO 1UP 1LO 1UP 1LO 1UP 1LO 1UP 1LO 1UP 1LO 1UP 3LO 2EX 28LE 2EX 1XX",
  "1ST 3XX 1ST vXX 9LE 2XX 1UP 1LO 1UP 1LO 1UP 1LO 1UP 1LO 1UP 1LO 1UP 1LO 1UP 3LO 1UP 1LO 1UP",
  "1LO 1UP 1LO 1UP 1LO 1UP 1LO 1UP 1LO 1UP 1LO 1UP 1LO 1UP 1LO 1UP 1LO 1UP 1LO 1UP 1LO 1UP 1LO",
  "1UP 1LO 1UP 1LO 1UP 1LO 1UP 1LO 1UP 1LO 1UP 1LO 1UP 1LO 1UP 1LO 1UP 1LO 1UP 1LO 1UP 1LO 1UP",
  "1LO 1UP 1LO 1UP 1LO 1UP 1LO 1UP 1LO 1UP 1LO 1UP aLO 1UP 1LO 1UP 1LO 2UP 1LO 1UP 1LO 1UP 1LO",
  "1UP 1LO 1UP 1LO 1LE 2XX 1UP 1LO 1UP 1LO 1LE 1UP 1LO 1UP 3LO 1UP 1LO 1UP 1LO 1UP 1LO 1UP 1LO",
  "1UP 1LO 1UP 1LO 1UP 1LO 1UP 1LO 1UP 1LO 1UP 1LO 5UP 1LO 5UP 1LO 1UP 1LO 1UP 1LO 1UP 1LO 1UP",
  "1LO 1UP 1LO 1UP 1LO 1UP 1LO 4UP 1LO 1UP 1LO 2UP 1LO 2XX 1UP 1LO 1XX 1LO 1XX 1LO 1UP 1LO 1UP",
  "1LO 1UP 1LO 1UP lXX 3LO 1UP 1LO 1LE 3LO 7LE 1EX 3LE 1EX 4LE 1EX nLE 5EX 4XX 1EX jXX 1gLE 2XX",
  "2ST 8XX 2EX 1eLE iEX 8XX 2ST aNU 6XX iEX 6LE 3XX 1LE 1XX 2LE 1EX aNU sLE 8EX 1XX 1ST nLE dEX",
  "cXX tLE 3XX 4EX 1bLE eEX 7XX 2ST 5XX 1LE aNU 6XX 5LE 1EX aLE aNU 5LE 1XX 15LE eEX 9XX 3LE 1EX",
  "8LE 2EX 2XX aNU 3XX 3ST nLE 3XX 1LE 3EX 1eLE 1EX 1LE 3EX 2LE 2EX 5LE 2EX 1LE 1EX 1LE oXX 3LE",
  "2XX bLE 5EX 2ST 3LE 2EX aXX 6LE 2XX 6LE 2XX 6LE 9XX 7LE 1XX 7LE 1XX 17LO 1XX eLO 6XX 28LO zLE",
  "8EX 1ST 2EX 2XX aNU 6XX 8mcLE cXX nLE 4XX 1dLE 6isXX a6LE 2XX 2yLE 12XX 7LO cXX 5LO 5XX 1LE",
  "1EX aLE 1XX dLE 1XX 5LE 1XX 1LE 1XX 2LE 1XX 2LE 1XX 30LE xXX a3LE 2CL gXX 1sLE 2XX 1iLE 14XX",
  "cLE 4XX gEX 2SC 1ST 2SC 2ST 2CL 7XX gEX 1XX 2SC 2XX gCL 2XX 2CL 7XX 2SC 1AT 1XX 2SC 2ST 1SC",
  "6CL 4XX 1SC cXX 5LE 1XX 3rLE 2XX 1FO 1XX 1ST 6XX 2CL 2XX 2SC 1AT 1XX aNU 2SC 3XX 1ST 1XX qUP",
  "1CL 1XX 1CL 3XX qLO 1CL 1XX 1CL 1XX 2CL 1ST 2CL 1SC 1XX 1kLE 2EX vLE 3XX 6LE 2XX 6LE 2XX 6LE",
  "2XX 3LE sXX 3FO 4XX cLE 1XX qLE 1XX jLE 1XX 2LE 1XX fLE 2XX eLE yXX 3fLE 1xXX 1hLE 3sXX 1EX",
  "3mXX tLE 3XX 1dLE fXX 1EX vXX wLE dXX uLE 5XX 12LE 5EX 5XX uLE 2XX 10LE 4XX 8LE 1XX 5LE 16XX",
  "14UP 14LO 26LE 2XX aNU 6XX 10UP 4XX 10LO 4XX 14LE 8XX 1gLE cXX bUP 1XX fUP 1XX 7UP 1XX 2UP 1XX",
  "bLO 1XX fLO 1XX 7LO 1XX 2LO 3XX 1gLE cXX 8nLE 9XX mLE aXX 8LE oXX 1LO 2LE 3LO 1XX 16LO 1XX 9LO",
  "1xXX 6LE 2XX 1LE 1XX 18LE 1XX 2LE 3XX 1LE 2XX nLE aXX nLE 9XX vLE 1tXX jLE 1XX 2LE aXX mLE aXX",
  "qLE 1yXX 1kLE 6XX 2LE 1sXX 1LE 3EX 1XX 2EX 5XX 4EX 4LE 1XX 3LE 1XX tLE 2XX 3EX 4XX 1EX mXX 2ST",
  "8XX tLE 3XX tLE zXX 8LE 1XX sLE 2EX pXX 1iLE aXX mLE aXX jLE dXX iLE 32XX 21LE 1jXX 1fUP dXX",
  "1fLO dXX 10LE 4EX 8XX aNU 6XX aNU 6LE mUP 3XX 5EX 1XX 1LE mLO 6yXX 16LE 1XX 2EX 3XX 2LE gXX",
  "3LE 1jXX 4EX tLE aXX 1LE 8XX mLE bEX 4XX 5ST mXX iLE 4EX 4ST 12XX lLE rXX nLE 9XX 3EX 1hLE fEX",
  "2ST tXX aNU 1EX 2LE 2EX 1LE 9XX 4EX 19LE bEX 2XX 1NU 4ST 1EX aXX 1NU 2XX pLE 7XX aNU 6XX 3EX",
  "10LE eEX 1XX aNU 1XX 3ST 1LE 2EX 1LE 8XX zLE 1EX 2XX 1LE 9XX 3EX 1cLE eEX 4LE 2ST 2XX 4EX 1ST",
  "2EX aNU 1LE 1XX 1LE 1XX 2ST wXX iLE 1XX pLE cEX 2ST 1XX 2ST 1XX 1EX 2LE 1EX 1qXX 7LE 1XX 1LE",
  "1XX 4LE 1XX fLE 1XX aLE 1ST 6XX 1bLE cEX 5XX aNU 6XX 4EX 1XX 8LE 2XX 2LE 2XX mLE 1XX 7LE 1XX",
  "2LE 1XX 5LE 1XX 2EX 1LE 7EX 2XX 2EX 2XX 3EX 2XX 1LE 6XX 1EX 5XX 5LE 2EX 2XX 7EX 3XX 5EX bXX",
  "aLE 1XX 1LE 2XX 1LE 1XX 12LE 1XX 1LE 9EX 1XX 1EX 2XX 1EX 1XX 4EX 1XX 5EX 1LE 1EX 1LE 2ST bXX",
  "2EX tXX 1hLE iEX 4LE 2ST 3XX aNU 4XX 1EX 3LE uXX 1cLE kEX 2LE 1XX 1LE 8XX aNU 4mXX 1bLE 7EX",
  "2XX 9EX 1XX 2ST 5XX fST 4LE 2EX yXX 1cLE hEX 2ST 1XX 1LE bXX aNU 12XX 17LE dEX 1LE 7XX aNU 6XX",
  "kNU sXX rLE 2XX fEX 4XX aNU 2XX 3ST 1XX 7LE 55XX 18LE fEX 2tXX wUP wLO aNU lXX 8LE 2XX 1LE 2XX",
  "8LE 1XX 2LE 1XX oLE 6EX 1XX 2EX 2XX 4EX 1LE 1EX 1LE 2EX 1ST 1XX 1ST 9XX aNU 1yXX 8LE 2XX 13LE",
  "7EX 2XX 7EX 1LE 1XX 1LE 1EX rXX 1LE aEX 14LE 7EX 1LE 4EX 3XX 2ST 3XX 1EX 8XX 1LE bEX 1aLE gEX",
  "1XX 2ST 1LE iXX 21LE 5jXX xLE fXX aNU 6XX 9LE 1XX 11LE 8EX 1XX 8EX 1LE 2ST dXX aNU oXX uLE 2XX",
  "mEX 1XX eEX 21XX 7LE 1XX 2LE 1XX 12LE 6EX 3XX 1EX 1XX 2EX 1XX 7EX 1LE 1EX 8XX aNU 6XX 6LE 1XX",
  "2LE 1XX wLE 5EX 1XX 2EX 1XX 5EX 1LE 7XX aNU 8mXX jLE 4EX 2ST 7XX 2EX 1LE 1EX dLE 1XX yLE 7EX",
  "3XX 5EX 2ST bXX aNU 1EX 2dXX 1LE 27XX pmLE 2uXX 33LE hXX 5gLE 218XX 2pLE fXX tsLE gFO 1EX 6LE",
  "fEX aXX 32zLE 5XX g7LE 5a1XX uLE iEX aNU 1c6XX ftLE 7XX vLE 1XX aNU 4XX 2ST 27LE 1XX aNU 6XX",
  "uLE 2XX 5EX 1ST aXX 1cLE 7EX 2ST 7XX 4LE 1ST bXX aNU 9XX lLE 5XX jLE c0XX 19LE 1XX 2ST aNU",
  "5iXX wUP wLO oXX 1ST 2vXX 23LE 4XX 1EX 1LE 1jEX 7XX 4EX dLE 1sXX 2LE 1XX 1LE 1EX bXX 2EX eXX",
  "4qgLE 8XX yeLE 15XX aLE 6w7XX 4LE 1XX 7LE 1XX 2LE 1XX 83LE fXX 1LE tXX 3LE 2XX 1LE eXX 4LE 8XX",
  "b0LE 1s4XX 2zLE 5XX dLE 3XX 9LE 7XX aLE 3XX 2EX 1ST 4FO 37wXX aNU eeXX 1aEX 2XX nEX f2XX 5EX",
  "3XX 6EX 8FO 8EX 2XX 7EX uXX 4EX 44XX 3EX cbXX qUP qLO qUP 7LO 1XX iLO qUP qLO 1UP 1XX 2UP 2XX",
  "1UP 2XX 2UP 2XX 4UP 1XX 8UP 4LO 1XX 1LO 1XX 7LO 1XX bLO qUP qLO 2UP 1XX 4UP 2XX 8UP 1XX 7UP",
  "1XX qLO 2UP 1XX 4UP 1XX 5UP 1XX 1UP 3XX 7UP 1XX qLO qUP qLO qUP qLO qUP qLO qUP qLO qUP qLO",
  "qUP sLO 2XX pUP 1XX pLO 1XX 6LO pUP 1XX pLO 1XX 6LO pUP 1XX pLO 1XX 6LO pUP 1XX pLO 1XX 6LO",
  "pUP 1XX pLO 1XX 6LO 1UP 1LO 2XX 1eNU e8XX 1jEX 4XX 1eEX 8XX 1EX eXX 1EX 3XX 1ST iXX 5EX 1XX",
  "fEX uoXX aLO 1LE kLO 6XX 6LO 5xXX 7EX 1XX hEX 2XX 7EX 1XX 2EX 1XX 5EX 5XX 1qLO xXX 1EX 34XX",
  "19LE 3XX 7EX 7LE 2XX aNU 4XX 1LE 8xXX uLE 1EX hXX 18LE 4EX aNU d2XX sLE 4EX aNU 5yXX uLE 2EX",
  "1LE aNU dhXX 7LE 1XX 4LE 1XX 2LE 1XX fLE 1XX 5hLE bXX 7EX 15XX yUP yLO 7EX 1LE 4XX aNU x2XX",
  "4LE 1XX rLE 1XX 2LE 1XX 1LE 2XX 1LE 1XX aLE 1XX 4LE 1XX 1LE 1XX 1LE 6XX 1LE 4XX 1LE 1XX 1LE",
  "1XX 1LE 1XX 3LE 1XX 2LE 1XX 1LE 2XX 1LE 1XX 1LE 1XX 1LE 1XX 1LE 1XX 1LE 1XX 2LE 1XX 1LE 2XX",
  "4LE 1XX 7LE 1XX 4LE 1XX 4LE 1XX 1LE 1XX aLE 1XX hLE 5XX 3LE 1XX 5LE 1XX hLE hgXX qUP 6XX qUP",
  "6XX qUP z0XX 3CL 12vXX aNU smXX wyoLE wXX 37eLE 6XX 66LE 2XX 4g2LE eXX 5rlLE fXX haLE 1wiXX",
  "f2LE 15uXX 3t7LE 5XX 38gLE f975XX 1FO uXX 2oEX 3kXX 6oEX 47bkXX"]

/-- The values of Sentence_Break with their normalized names. -/
def sentenceBreakNames : List (String × List String) := [
  ("AT", ["at", "aterm"]),
  ("CL", ["cl", "close"]),
  ("CR", ["cr"]),
  ("EX", ["ex", "extend"]),
  ("FO", ["fo", "format"]),
  ("LE", ["le", "oletter"]),
  ("LF", ["lf"]),
  ("LO", ["lo", "lower"]),
  ("NU", ["nu", "numeric"]),
  ("SC", ["sc", "scontinue"]),
  ("SE", ["se", "sep"]),
  ("SP", ["sp"]),
  ("ST", ["st", "sterm"]),
  ("UP", ["up", "upper"])]

/-- The properties that tell boundaries, by their normalized names. -/
def breakProperties : List (List String × Runs × List (String × List String)) := [
  (["graphemeclusterbreak", "gcb"], graphemeBreakRuns, graphemeBreakNames),
  (["wordbreak", "wb"], wordBreakRuns, wordBreakNames),
  (["sentencebreak", "sb"], sentenceBreakRuns, sentenceBreakNames)]

end ResponseCheck.Unicode
