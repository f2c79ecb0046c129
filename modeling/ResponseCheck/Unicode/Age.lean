import ResponseCheck.Unicode.CharSet
import ResponseCheck.Unicode.Runs

/-!
# Ages

The age of a character is the version of Unicode that it came with. The table is a list of runs from
U+0000 on: a length in base 36, then the version, or `XX` where there is no character.
-/

namespace ResponseCheck.Unicode

/-- The runs of ages. -/
def ageRuns : Runs := labelledRuns [
  "dyV1_1 4V3_0 uV1_1 8V3_0 1V3_2 1V4_0 iV3_0 3V4_0 bV4_1 eV5_0 2hV1_1 5V3_0 2V4_0 1bV1_1 1V3_0",
  "aV1_1 5V3_0 hV4_0 1yV1_1 9V3_0 1V3_2 8V4_0 5V4_1 3V4_0 2V1_1 1V3_0 dV3_2 4V5_1 2V1_1 2V5_1 2XX",
  "1V1_1 3V5_0 1V1_1 1V7_0 4XX 7V1_1 1XX 1V1_1 1XX kV1_1 1XX 18V1_1 1V5_1 7V1_1 1V3_0 2V3_2 1V1_1",
  "1V3_0 1V1_1 1V3_0 1V1_1 1V3_0 1V1_1 1V3_0 iV1_1 2V3_1 1V3_2 5V4_0 4V4_1 1V3_0 cV1_1 1V3_0",
  "1uV1_1 1V3_0 cV1_1 1V3_0 15V1_1 1V5_1 2V3_0 2V3_2 4V3_0 1hV1_1 2V3_2 2V1_1 2V3_2 2V1_1 2V3_2",
  "1V5_0 sV1_1 2V3_0 8V1_1 2V4_1 2V1_1 6V5_0 gV3_2 4V5_0 gV5_1 2V5_2 2V6_0 8V7_0 1XX 12V1_1 2XX",
  "7V1_1 1V11_0 13V1_1 1V11_0 1V1_1 1V3_0 2XX 2V7_0 1V6_1 1XX hV2_0 1V4_1 dV2_0 aV1_1 1V5_0 9V1_1",
  "1V2_0 3V4_1 8XX rV1_1 4XX 1V11_0 5V1_1 bXX 4V4_0 1V6_1 1V7_0 5V5_1 1V4_1 1V1_1 9V4_0 5V5_1",
  "1V1_1 1V6_3 1V14_0 1V4_1 1V1_1 1V6_0 qV1_1 5V5_1 jV1_1 3V3_0 3V4_0 6V4_1 1V6_0 eV1_1 2V3_2",
  "20V1_1 2V3_0 5V1_1 1V3_0 fV1_1 1V3_0 uV1_1 2V4_0 aV1_1 5V3_0 1V4_0 eV3_0 1XX uV3_0 3V4_0 rV3_0",
  "2XX 3V4_0 uV4_1 iV5_1 1dV3_0 1V3_2 eXX 1nV5_0 2XX 3V11_0 1aV5_2 2XX fV5_2 1XX sV6_0 2XX 1V6_0",
  "1XX bV10_0 5XX vV14_0 1XX 2V14_0 5XX 1V16_0 8V14_0 1V6_1 1V7_0 bV6_1 6V7_0 2V8_0 1V14_0 8V9_0",
  "aV13_0 bV14_0 1V11_0 fV9_0 1V8_0 rV6_1 1V7_0 1V5_2 3V1_1 1V4_0 1hV1_1 2V6_0 iV1_1 1V5_2 1V6_0",
  "5V1_1 1V5_2 2V6_0 pV1_1 2V5_1 5V6_0 1V7_0 2V5_2 2V5_0 1V4_1 2V5_0 1V7_0 3V1_1 1XX 8V1_1 2XX",
  "2V1_1 2XX mV1_1 1XX 7V1_1 1XX 1V1_1 3XX 4V1_1 2XX 1V1_1 1V4_0 7V1_1 2XX 2V1_1 2XX 3V1_1 1V4_1",
  "8XX 1V1_1 4XX 2V1_1 1XX 5V1_1 2XX lV1_1 1V5_2 2V10_0 1V11_0 2XX 1V4_0 1V1_1 1V4_0 1XX 6V1_1",
  "4XX 2V1_1 2XX mV1_1 1XX 7V1_1 1XX 2V1_1 1XX 2V1_1 1XX 2V1_1 2XX 1V1_1 1XX 5V1_1 4XX 2V1_1 2XX",
  "3V1_1 3XX 1V5_1 7XX 4V1_1 1XX 1V1_1 7XX fV1_1 1V5_1 1V11_0 aXX 3V1_1 1XX 7V1_1 1V4_0 1V1_1 1XX",
  "3V1_1 1XX mV1_1 1XX 7V1_1 1XX 2V1_1 1XX 5V1_1 2XX aV1_1 1XX 3V1_1 1XX 3V1_1 2XX 1V1_1 fXX",
  "1V1_1 3V4_0 2XX aV1_1 1V6_1 1V4_0 7XX 1V8_0 6V10_0 1XX 3V1_1 1XX 8V1_1 2XX 2V1_1 2XX mV1_1 1XX",
  "7V1_1 1XX 2V1_1 1XX 1V4_0 4V1_1 2XX 8V1_1 1V5_1 2XX 2V1_1 2XX 3V1_1 7XX 1V13_0 2V1_1 4XX 2V1_1",
  "1XX 3V1_1 2V5_1 2XX bV1_1 1V4_0 6V6_0 aXX 2V1_1 1XX 6V1_1 3XX 3V1_1 1XX 4V1_1 3XX 2V1_1 1XX",
  "1V1_1 1XX 2V1_1 3XX 2V1_1 3XX 3V1_1 3XX 8V1_1 1V4_1 3V1_1 4XX 5V1_1 3XX 3V1_1 1XX 4V1_1 2XX",
  "1V5_1 6XX 1V1_1 eXX 1V4_1 cV1_1 8V4_0 5XX 1V7_0 3V1_1 1V11_0 8V1_1 1XX 3V1_1 1XX nV1_1 1XX",
  "aV1_1 1V7_0 5V1_1 2XX 1V14_0 1V5_1 7V1_1 1XX 3V1_1 1XX 4V1_1 7XX 2V1_1 1XX 2V5_1 1V8_0 2XX",
  "1V14_0 2XX 2V1_1 2V5_1 2XX aV1_1 7XX 1V12_0 8V5_1 1V9_0 1V7_0 2V1_1 1V11_0 8V1_1 1XX 3V1_1 1XX",
  "nV1_1 1XX aV1_1 1XX 5V1_1 2XX 2V4_0 7V1_1 1XX 3V1_1 1XX 4V1_1 7XX 2V1_1 6XX 1V14_0 1V1_1 1XX",
  "2V1_1 2V5_0 2XX aV1_1 1XX 2V5_0 1V15_0 cXX 1V10_0 1V7_0 2V1_1 1V13_0 8V1_1 1XX 3V1_1 1XX nV1_1",
  "1V6_0 gV1_1 1V6_0 2V10_0 1V5_1 6V1_1 1V5_1 1XX 3V1_1 1XX 4V1_1 1V6_0 1V9_0 4XX 3V9_0 1V1_1",
  "7V9_0 1V8_0 2V1_1 2V5_1 2XX aV1_1 6V5_1 3V9_0 7V5_1 1XX 1V13_0 2V3_0 1XX iV3_0 3XX oV3_0 1XX",
  "9V3_0 1XX 1V3_0 2XX 7V3_0 3XX 1V3_0 4XX 6V3_0 1XX 1V3_0 1XX 8V3_0 6XX aV7_0 2XX 3V3_0 cXX",
  "1mV1_1 4XX tV1_1 11XX 2V1_1 1XX 1V1_1 1XX 1V12_0 2V1_1 1V12_0 1V1_1 1XX 1V12_0 1V1_1 6V12_0",
  "4V1_1 1V12_0 7V1_1 1V12_0 3V1_1 1XX 1V1_1 1XX 1V1_1 2V12_0 2V1_1 1V12_0 dV1_1 1V12_0 3V1_1 2XX",
  "5V1_1 1XX 1V1_1 1XX 6V1_1 1V15_0 1XX aV1_1 2XX 2V1_1 2V6_1 wXX 20V2_0 1XX xV2_0 1V3_0 2V5_1",
  "4XX rV2_0 4V6_0 6V2_0 1V3_0 1V2_0 1XX lV2_0 3V3_0 7V2_0 1V3_0 1V2_0 3V3_0 1XX fV3_0 1XX 1V5_1",
  "1V3_0 2V4_1 3V5_1 4V5_2 2V6_0 11XX yV3_0 1V5_1 5V3_0 1V5_1 2V3_0 1V5_1 7V3_0 3V5_1 4V3_0 6V5_1",
  "qV3_0 1sV5_1 4V5_2 2V5_1 12V1_1 1XX 1V6_1 5XX 1V6_1 2XX 13V1_1 2V3_2 2V4_1 1V1_1 1V4_1 3V6_1",
  "2iV1_1 5V5_2 1wV1_1 5V5_2 2aV1_1 6V5_2 7V3_0 1V4_1 1rV3_0 1V4_1 1V3_0 1XX 4V3_0 2XX 7V3_0 1XX",
  "1V3_0 1XX 4V3_0 2XX 13V3_0 1V4_1 1V3_0 1XX 4V3_0 2XX vV3_0 1V4_1 1V3_0 1XX 4V3_0 2XX 7V3_0 1XX",
  "1V3_0 1XX 4V3_0 2XX 7V3_0 1V4_1 7V3_0 1XX nV3_0 1V4_1 vV3_0 1V4_1 1V3_0 1XX 4V3_0 2XX 7V3_0",
  "1V4_1 13V3_0 1V4_1 jV3_0 2XX 2V6_0 2V4_1 sV3_0 3XX qV4_1 6XX 2dV3_0 1V8_0 2XX 6V8_0 2XX 1V5_2",
  "hiV3_0 9V5_2 tV3_0 3XX 29V3_0 8V7_0 7XX dV3_2 1V14_0 7V3_2 1V14_0 9XX 1V14_0 nV3_2 9XX kV3_2",
  "cXX dV3_2 1XX 3V3_2 1XX 2V3_2 cXX 2lV3_0 1V4_0 2XX aV3_0 6XX aV4_0 6XX fV3_0 1V14_0 aV3_0 6XX",
  "2gV3_0 1V11_0 7XX 16V3_0 1V5_1 5XX 1yV5_2 aXX tV4_0 2V7_0 1XX cV4_0 4XX cV4_0 4XX 1V4_0 3XX",
  "16V4_0 2XX 5V4_0 bXX 16V4_1 2V5_2 4XX qV4_1 6XX aV4_1 1V5_2 3XX 2V4_1 wV4_0 sV4_1 2XX 2V4_1",
  "1rV5_2 1XX tV5_2 2XX bV5_2 6XX aV5_2 6XX eV5_2 2XX fV7_0 2V13_0 eV14_0 1dXX 24V5_0 1V14_0 1XX",
  "2V16_0 19V5_0 2V14_0 1V16_0 17V5_1 3V6_1 cV5_1 6V6_1 1gV6_0 8XX 4V6_0 1kV5_1 3XX fV5_1 3XX",
  "1fV5_1 9V9_0 2V16_0 5XX 17V11_0 2XX 3V11_0 8V6_1 8XX zV5_2 4V6_1 1V10_0 2V7_0 1V12_0 5XX",
  "30V4_0 2gV4_1 7V5_0 sV5_1 fV7_0 4V10_0 1V14_0 1V9_0 1V6_0 1V5_2 2V5_0 4bV1_1 1V2_0 4V5_1",
  "2iV1_1 6V5_1 mV1_1 2XX 6V1_1 2XX 12V1_1 2XX 6V1_1 2XX 8V1_1 1XX 1V1_1 1XX 1V1_1 1XX 1V1_1 1XX",
  "vV1_1 2XX 1hV1_1 1XX fV1_1 1XX eV1_1 2XX 6V1_1 1XX jV1_1 2XX 3V1_1 1XX 9V1_1 1XX 1bV1_1 1V3_0",
  "nV1_1 1V3_2 6V3_0 5V3_2 2V4_0 2V4_1 1V3_2 7V4_1 5V3_2 1V5_1 1XX 4V6_3 7V1_1 1V3_2 2XX rV1_1",
  "1XX 5V4_1 8V6_0 3XX bV1_1 1V2_0 1V2_1 3V3_0 2V3_2 4V4_1 3V5_2 1V6_0 1V6_2 3V7_0 1V8_0 1V10_0",
  "1V14_0 fXX iV1_1 2V3_0 7V3_2 1V4_1 4V5_0 1V5_1 fXX 1lV1_1 2V3_0 1V4_0 1V4_1 fV3_2 1V4_1 2V5_0",
  "1V5_1 3V5_2 1cV1_1 1V3_0 1V5_0 4V5_1 1V5_2 2V8_0 4XX 2jV1_1 9V3_0 cV3_2 6qV1_1 eV3_2 1V1_1",
  "1V3_0 3dV1_1 1V3_0 1V3_2 uV3_0 1gV3_2 2V4_0 bV4_1 cV5_0 1V5_2 bV6_0 7V7_0 4V9_0 1V10_0 11V1_1",
  "2V3_0 3V16_0 mXX bV1_1 lXX 3vV1_1 kV3_2 1V4_0 46V1_1 aV3_2 28V1_1 8V3_0 8V3_2 kV1_1 2V4_0",
  "2V3_2 1V4_1 1V3_0 2eV1_1 2V3_0 cV3_2 2V4_1 aV3_2 8V4_0 bV4_1 1V5_1 2V5_2 2V4_0 gV4_1 1V5_0",
  "aV5_1 3V5_2 4V5_1 aV5_2 1V6_0 jV5_2 1V6_0 1V5_2 4V6_0 oV5_2 1V7_0 4V1_1 1V6_0 4V1_1 2V6_0",
  "sV1_1 1V6_0 zV1_1 1V6_0 1V1_1 1V6_0 4V1_1 3V6_0 1V1_1 1V5_2 7V1_1 2V6_0 7V1_1 eV3_2 vV1_1",
  "3V6_0 oV1_1 1V6_0 eV1_1 1V6_0 7V4_1 4V5_0 1V6_1 1V5_1 1V6_1 2V6_0 sV3_2 4V5_1 gV3_2 74V3_0",
  "e8V3_2 eV4_0 6V4_1 7V5_0 5V5_1 4V5_0 15V5_1 3V7_0 5V5_1 5V5_2 qV7_0 2XX wV7_0 1XX 1V13_0 yV7_0",
  "3V11_0 cV7_0 1V12_0 8V7_0 1V10_0 pV11_0 4V8_0 fV11_0 1V12_0 1bV4_1 1V14_0 1bV4_1 1V14_0 dV5_0",
  "3V5_1 1V5_2 3V5_1 4V5_0 6V5_1 2V5_2 2zV4_1 7V5_2 2V6_1 5XX 19V4_1 1XX 1V6_1 5XX 1V6_1 2XX",
  "1iV4_1 2V6_1 7XX 1V4_1 1V6_0 eXX 1V6_0 nV4_1 9XX 7V4_1 1XX 7V4_1 1XX 7V4_1 1XX 7V4_1 1XX 7V4_1",
  "1XX 7V4_1 1XX 7V4_1 1XX 7V4_1 1XX wV5_1 oV4_1 4V5_1 2V4_1 jV5_1 1V5_2 aV6_1 7V7_0 2V9_0 5V10_0",
  "5V11_0 1V12_0 3V13_0 bV14_0 yXX qV3_0 1XX 2hV3_0 cXX 5yV3_0 qXX cV3_0 4V15_1 1kV1_1 3V3_0",
  "3V3_2 1V3_0 1V1_1 1XX 2cV1_1 2V3_2 2XX 6V1_1 2V3_2 2mV1_1 1V3_2 5XX 14V1_1 1V5_1 1V10_0 1V11_0",
  "1XX 2mV1_1 1XX gV1_1 oV3_0 3V6_0 5V13_0 gV4_1 kV5_1 2V16_0 9XX 1V15_1 gV3_2 tV1_1 2V4_0 1XX",
  "10V1_1 cV5_2 1V4_0 fV3_2 sV1_1 2V4_0 1V4_1 1eV1_1 fV3_2 cV1_1 4V4_0 1bV1_1 1V12_1 3bV1_1 4V4_0",
  "2rV1_1 2V4_0 vV1_1 1V4_0 52uV3_0 aV13_0 1sV4_0 g4mV1_1 mV4_1 8V5_1 8V5_2 1V6_1 9V8_0 lV10_0",
  "5V11_0 dV13_0 3V14_0 wdV3_0 3XX iV3_0 2V3_2 gV3_0 1V3_2 cV3_0 1V3_2 3V3_0 1V3_2 1V3_0 9XX",
  "1cV5_2 8cV5_1 kXX wV5_1 2V6_0 iV5_1 8V6_1 sV5_1 6V7_0 1V8_0 1V6_1 2gV5_2 8XX nV4_1 4V5_0 5V5_1",
  "2V5_0 2zV5_1 2V6_0 1V8_0 2V6_0 2V6_1 cV7_0 aV6_0 1V6_1 3V7_0 1V9_0 1V11_0 2V7_0 6V8_0 2V11_0",
  "6V12_0 2V14_0 5V12_0 4V13_0 3V16_0 2XX 2V14_0 1XX 1V14_0 1XX 5V14_0 3V16_0 lXX 3V14_0 2V13_0",
  "1V7_0 2V6_1 1V6_0 5V5_1 18V4_1 1V13_0 3XX aV5_2 6XX 1kV5_0 8XX 1xV5_1 1V9_0 8XX cV5_1 6XX",
  "sV5_2 2V8_0 2V11_0 2cV5_1 bXX 1V5_1 tV5_2 3XX 26V5_2 1XX bV5_2 4XX 2V5_2 vV7_0 1XX 1jV5_1 9XX",
  "eV5_1 2XX aV5_1 2XX 4V5_1 sV5_2 4V7_0 1vV5_2 oXX 5V5_2 nV6_1 aXX 6V6_0 2XX 6V6_0 2XX 6V6_0 9XX",
  "7V6_0 1XX 7V6_0 1XX 1cV7_0 4V8_0 2V7_0 2V12_0 4V13_0 4XX 28V8_0 1aV5_2 2XX aV5_2 6XX 8mcV2_0",
  "cXX nV5_2 4XX 1dV5_2 1l0XX 566V1_1 2V6_1 1nV3_2 3V5_2 2XX 2yV4_1 12XX 7V1_1 cXX 5V1_1 5XX",
  "1V3_0 pV1_1 1XX 5V1_1 1XX 1V1_1 1XX 2V1_1 1XX 2V1_1 1XX 30V1_1 gV6_0 1V14_0 gXX a5V1_1 gV14_0",
  "1sV1_1 2XX 1iV1_1 7XX 1V14_0 wV3_1 cV1_1 1V3_2 1V4_0 2V14_0 gV3_2 aV4_1 6XX 4V1_1 3V5_1 7V7_0",
  "2V8_0 lV1_1 2V3_2 2V4_0 aV1_1 1XX jV1_1 1XX 4V1_1 4XX 3V1_1 1V3_2 1V1_1 1XX 3rV1_1 2XX 1V1_1",
  "1XX 2mV1_1 2V3_2 2mV1_1 3XX 6V1_1 2XX 6V1_1 2XX 6V1_1 2XX 3V1_1 3XX 7V1_1 1XX 7V1_1 aXX 3V3_0",
  "1V2_1 3V1_1 cV4_0 1XX qV4_0 1XX jV4_0 1XX 2V4_0 1XX fV4_0 2XX eV4_0 yXX 3fV4_0 5XX 3V4_0 4XX",
  "19V4_0 3XX 9V4_0 23V4_1 2V7_0 2V9_0 1XX cV5_1 1V13_0 3XX 1V7_0 1bXX 1aV5_1 3mXX tV5_1 3XX",
  "1dV5_1 fXX sV7_0 4XX vV3_1 1V7_0 4V3_1 9XX 3V10_0 rV3_1 5XX 17V7_0 5XX uV4_0 1XX 1V4_0 10V4_1",
  "4XX eV4_1 16XX 12V3_1 2V4_0 12V3_1 28V4_0 2XX aV4_0 6XX 10V9_0 4XX 10V9_0 4XX 14V7_0 8XX",
  "1gV7_0 bXX 1V7_0 bV14_0 1XX fV14_0 1XX 7V14_0 1XX 2V14_0 1XX bV14_0 1XX fV14_0 1XX 7V14_0 1XX",
  "2V14_0 3XX 1gV16_0 cXX 8nV7_0 9XX mV7_0 aXX 8V7_0 oXX 6V14_0 1XX 16V14_0 1XX 9V14_0 1xXX 6V4_0",
  "2XX 1V4_0 1XX 18V4_0 1XX 2V4_0 3XX 1V4_0 2XX 1V4_0 mV5_2 1XX 9V5_2 1rV7_0 8XX 9V7_0 1cXX jV8_0",
  "1XX 2V8_0 5XX 5V8_0 qV5_0 2V5_2 3XX 1V5_0 qV5_1 5XX 1V5_1 1sXX 1kV6_1 4XX 2V8_0 2V6_1 gV8_0",
  "2XX 1aV8_0 4V4_1 1XX 2V4_1 5XX 8V4_1 1XX 3V4_1 1XX rV4_1 2V11_0 2XX 3V4_1 4XX 9V4_1 1V11_0 7XX",
  "9V4_1 7XX wV5_2 wV7_0 wXX 13V7_0 4XX cV7_0 9XX 1iV5_2 3XX tV5_2 2XX rV5_2 5XX 8V5_2 iV7_0 7XX",
  "4V7_0 cXX 7V7_0 28XX 21V5_2 1jXX 1fV8_0 dXX 1fV8_0 7XX 6V8_0 14V11_0 8XX aV11_0 6XX 12V16_0",
  "3XX tV16_0 8XX 2V16_0 5sXX vV5_2 1XX 16V13_0 1XX 3V13_0 2XX 2V13_0 gXX 3V16_0 1jXX 1V16_0",
  "3V15_0 14V11_0 8XX 16V11_0 mXX qV14_0 12XX sV13_0 kXX nV12_0 9XX 26V6_0 4XX uV6_0 6V14_0 9XX",
  "1V7_0 1uV5_2 1V14_0 aXX 1V11_0 2XX pV6_1 7XX aV6_1 6XX 1hV6_1 1XX eV6_1 3V11_0 1V13_0 8XX",
  "13V7_0 9XX 21V6_1 4V8_0 1V7_0 2V13_0 aV6_1 1V7_0 5V8_0 1XX kV7_0 bXX iV7_0 1XX 17V7_0 1V9_0",
  "3V15_0 1qXX 7V8_0 1XX 1V8_0 1XX 4V8_0 1XX fV8_0 1XX bV8_0 6XX 1nV7_0 5XX aV7_0 6XX 1V8_0 3V7_0",
  "1XX 8V7_0 2XX 2V7_0 2XX mV7_0 1XX 7V7_0 1XX 2V7_0 1XX 5V7_0 1XX 1V11_0 9V7_0 2XX 2V7_0 2XX",
  "3V7_0 2XX 1V8_0 6XX 1V7_0 5XX 7V7_0 2XX 7V7_0 3XX 5V7_0 bXX aV16_0 1XX 1V16_0 2XX 1V16_0 1XX",
  "12V16_0 1XX aV16_0 1XX 1V16_0 2XX 1V16_0 1XX 4V16_0 1XX aV16_0 1XX 2V16_0 8XX 2V16_0 tXX",
  "2iV9_0 1V13_0 1V9_0 1XX 1V9_0 1V11_0 1V12_0 2V13_0 uXX 20V7_0 8XX aV7_0 4mXX 1iV7_0 2XX iV7_0",
  "kV8_0 yXX 1xV7_0 bXX aV7_0 6XX dV9_0 jXX 1kV6_1 1V12_0 1V14_0 6XX aV6_1 6XX kV16_0 sXX qV8_0",
  "1V11_0 2XX fV8_0 4XX gV8_0 7V14_0 55XX 1oV11_0 2sXX 2bV7_0 cXX 1V7_0 7V13_0 2XX 1V13_0 2XX",
  "8V13_0 1XX 2V13_0 1XX uV13_0 1XX 2V13_0 2XX cV13_0 9XX aV13_0 1yXX 8V12_0 2XX 1aV12_0 2XX",
  "bV12_0 rXX 20V10_0 8XX 1gV10_0 2V12_0 nV10_0 1V11_0 5V10_0 dXX gV14_0 1lV7_0 7XX aV15_0 52XX",
  "yV16_0 eXX aV16_0 6XX 9V9_0 1XX 19V9_0 1XX eV9_0 aXX tV9_0 3XX wV9_0 2XX mV9_0 1XX eV9_0 21XX",
  "7V10_0 1XX 2V10_0 1XX 18V10_0 3XX 1V10_0 1XX 2V10_0 1XX 9V10_0 8XX aV10_0 6XX 6V11_0 1XX",
  "2V11_0 1XX 11V11_0 1XX 2V11_0 1XX 6V11_0 7XX aV11_0 8mXX pV11_0 7XX hV15_0 1XX 15V15_0 3XX",
  "sV15_0 1V16_0 2dXX 1V13_0 fXX 1eV12_0 dXX 1V12_0 ofV5_0 16V7_0 1V8_0 2uXX 2rV5_0 cV7_0 1XX",
  "4V5_0 1V7_0 bXX 5gV8_0 218XX 2rV14_0 dXX trV5_2 1V15_0 9V12_0 tV15_0 aXX 32zV16_0 5XX g7V8_0",
  "5a1XX 1mV16_0 1c6XX ftV6_0 7XX vV7_0 1XX aV7_0 4XX 2V7_0 27V14_0 1XX aV14_0 6XX uV7_0 2XX",
  "6V7_0 aXX 1yV7_0 aXX aV7_0 1XX 7V7_0 1XX lV7_0 5XX jV7_0 c0XX 1mV16_0 5iXX 2jV11_0 2tXX 1xV6_1",
  "6V12_0 4XX 1V12_0 1bV6_1 9V12_0 7XX hV6_1 1sXX 1V9_0 1V10_0 2V12_0 1V13_0 bXX 2V13_0 eXX",
  "4q5V9_0 5V11_0 6V12_0 8XX kzV9_0 dfV13_0 15XX 1V16_0 9V13_0 6w7XX 4V14_0 1XX 7V14_0 1XX 2V14_0",
  "1XX 2V6_0 7xV10_0 4V14_0 fXX 1V15_0 tXX 3V12_0 2XX 1V15_0 eXX 4V12_0 8XX b0V10_0 1s4XX 2zV7_0",
  "5XX dV7_0 3XX 9V7_0 7XX aV7_0 2XX 8V7_0 318XX 6yV16_0 6XX c4V16_0 24XX 1aV14_0 2XX nV14_0 9XX",
  "38V14_0 1oXX 6uV3_1 aXX 13V3_1 2XX 1V5_1 50V3_1 bV8_0 2V14_0 lXX 1yV4_1 3eXX kV15_0 cXX kV11_0",
  "cXX 2fV4_0 9XX iV5_0 7V11_0 3rXX 2dV3_1 1XX 1zV3_1 1XX 2V3_1 2XX 1V3_1 2XX 2V3_1 2XX 4V3_1 1XX",
  "cV3_1 1XX 1V3_1 1XX 4V3_1 1V4_0 2V3_1 1XX 1tV3_1 1XX 4V3_1 2XX 8V3_1 1XX 7V3_1 1XX sV3_1 1XX",
  "4V3_1 1XX 5V3_1 1XX 1V3_1 3XX 7V3_1 1XX 9eV3_1 2V4_1 2XX 82V3_1 2V5_0 2XX 1eV3_1 i4V8_0 fXX",
  "5V8_0 1XX fV8_0 uoXX vV14_0 6XX 6V15_0 5xXX 7V9_0 1XX hV9_0 2XX 7V9_0 1XX 2V9_0 1XX 5V9_0 5XX",
  "1qV15_0 xXX 1V15_0 34XX 19V12_0 3XX eV12_0 2XX aV12_0 4XX 2V12_0 8wXX vV14_0 hXX 1mV12_0 5XX",
  "1V12_0 cwXX 16V15_0 5yXX 17V16_0 4XX 1V16_0 dcXX 7V14_0 1XX 4V14_0 1XX 2V14_0 1XX fV14_0 1XX",
  "5hV7_0 2XX gV7_0 15XX 23V9_0 1V12_0 4XX aV9_0 4XX 2V9_0 ltXX 1wV11_0 24XX 1pV12_0 5eXX 4V6_1",
  "1XX rV6_1 1XX 2V6_1 1XX 1V6_1 2XX 1V6_1 1XX aV6_1 1XX 4V6_1 1XX 1V6_1 1XX 1V6_1 6XX 1V6_1 4XX",
  "1V6_1 1XX 1V6_1 1XX 1V6_1 1XX 3V6_1 1XX 2V6_1 1XX 1V6_1 2XX 1V6_1 1XX 1V6_1 1XX 1V6_1 1XX",
  "1V6_1 1XX 1V6_1 1XX 2V6_1 1XX 1V6_1 2XX 4V6_1 1XX 7V6_1 1XX 4V6_1 1XX 4V6_1 1XX 1V6_1 1XX",
  "aV6_1 1XX hV6_1 5XX 3V6_1 1XX 5V6_1 1XX hV6_1 1gXX 2V6_1 7iXX 18V5_1 4XX 2sV5_1 cXX fV6_0 2XX",
  "eV6_0 1V7_0 1XX fV6_0 1XX fV6_0 mV7_0 aXX bV5_2 2V7_0 3V13_0 vV5_2 1V11_0 1V6_0 1V5_2 bV6_0",
  "1V5_2 1V6_0 1V5_2 2V6_0 1V5_2 3V6_0 1V5_2 3V6_0 5V5_2 8V6_0 1V5_2 7V6_0 1V5_2 aV6_0 2V6_1",
  "1V12_0 3V13_0 9V6_0 1V5_2 1V6_0 2V5_2 2V6_0 1V5_2 aV6_0 4V5_2 2V6_0 1V5_2 aV6_0 iV9_0 1V13_0",
  "1kXX qV6_0 1V5_2 2V6_0 dXX yV5_2 9V6_0 1V9_0 4XX 9V5_2 7XX 2V6_0 eXX 6V10_0 4aXX xV6_0 cV7_0",
  "3V8_0 6V6_0 1V7_0 1yV6_0 1V7_0 2V8_0 kV6_0 cV7_0 11V6_0 1V7_0 5V6_0 4V7_0 5V8_0 cV7_0 hV6_0",
  "7V7_0 8V8_0 1rV6_0 1V7_0 1V6_0 1V7_0 52V6_0 1V7_0 4V6_0 2V7_0 1V8_0 1qV6_0 2V7_0 4V6_1 7V7_0",
  "5V8_0 oV6_0 iV7_0 1V9_0 15V7_0 1V9_0 2eV7_0 5V6_0 1V6_1 gV6_0 1V6_1 3V6_0 1V6_1 1V6_0 1V6_1",
  "1V6_0 1V6_1 1V6_0 1V6_1 3V6_0 1V6_1 6V6_0 2V6_1 4V6_0 1V6_1 1V6_0 2V6_1 4V6_0 1V6_1 cV6_0",
  "2V7_0 2V8_0 bV6_0 1cV7_0 1yV6_0 aV7_0 1V8_0 2V9_0 2V10_0 1V12_0 2V13_0 4XX 1V15_0 3V14_0 dV7_0",
  "3XX 4V7_0 3V9_0 2V10_0 1V11_0 1V12_0 2V13_0 3XX 38V6_0 3V15_0 4XX 5V15_0 2dV7_0 4V11_0 1V15_0",
  "6XX cV12_0 4XX 1V14_0 fXX cV7_0 4XX 1kV7_0 8XX aV7_0 6XX 14V7_0 8XX uV7_0 2XX 2V13_0 aV16_0",
  "4XX 2V16_0 1qXX cV10_0 1V13_0 3V12_0 9V8_0 6V9_0 1V10_0 8V9_0 8V10_0 1V9_0 2V10_0 cV9_0 1V12_0",
  "cV9_0 1V10_0 3V11_0 fV9_0 dV10_0 5V11_0 1V12_0 1V13_0 4V11_0 2V13_0 1V14_0 1V11_0 1V12_0",
  "4V11_0 5V8_0 dV9_0 6V10_0 bV11_0 2V13_0 6V12_0 3V13_0 2V12_0 aV11_0 6V12_0 1V8_0 2V11_0 8V12_0",
  "1V13_0 1V14_0 3V12_0 nV10_0 pV11_0 2cV12_0 cXX eV11_0 2XX 4V12_0 1V13_0 3V15_0 3V12_0 2V14_0",
  "3XX 3V12_0 4V13_0 2V15_0 1V16_0 5XX 1V16_0 6V12_0 jV13_0 4V14_0 3V15_0 7V13_0 4V14_0 3V15_0",
  "1V16_0 1V15_0 3V13_0 3V14_0 1V16_0 7XX 2V15_0 7V13_0 3V14_0 2V15_0 1V16_0 2XX 1V16_0 8V14_0",
  "1V15_0 1V16_0 6XX 7V14_0 2V15_0 7XX 43V13_0 1XX 1jV13_0 11V16_0 aV13_0 skXX 2V2_0 wyfV3_1",
  "7V13_0 2V14_0 wXX 379V5_2 4V14_0 1V15_0 6XX 66V6_0 2XX 4g2V8_0 eXX 5rlV10_0 fXX haV15_1 1wiXX",
  "f2V3_1 15sXX 2V2_0 3t7V13_0 5XX 38gV15_0 17imXX 2V2_0 1ekeXX 2V2_0 1ekeXX 2V2_0 1ekeXX 2V2_0",
  "1ekeXX 2V2_0 1ekeXX 2V2_0 1ekeXX 2V2_0 1ekeXX 2V2_0 1ekeXX 2V2_0 1ekeXX 2V2_0 1ekeXX 2V2_0 1XX",
  "1V3_1 uXX 2oV3_1 3kXX 6oV4_0 1e6mXX 2t4yV2_0"]

/-- The versions, in order, with their normalized names. -/
def ages : List (String × List String) := [
  ("V1_1", ["1.1", "v11"]),
  ("V2_0", ["2.0", "v20"]),
  ("V2_1", ["2.1", "v21"]),
  ("V3_0", ["3.0", "v30"]),
  ("V3_1", ["3.1", "v31"]),
  ("V3_2", ["3.2", "v32"]),
  ("V4_0", ["4.0", "v40"]),
  ("V4_1", ["4.1", "v41"]),
  ("V5_0", ["5.0", "v50"]),
  ("V5_1", ["5.1", "v51"]),
  ("V5_2", ["5.2", "v52"]),
  ("V6_0", ["6.0", "v60"]),
  ("V6_1", ["6.1", "v61"]),
  ("V6_2", ["6.2", "v62"]),
  ("V6_3", ["6.3", "v63"]),
  ("V7_0", ["7.0", "v70"]),
  ("V8_0", ["8.0", "v80"]),
  ("V9_0", ["9.0", "v90"]),
  ("V10_0", ["10.0", "v100"]),
  ("V11_0", ["11.0", "v110"]),
  ("V12_0", ["12.0", "v120"]),
  ("V12_1", ["12.1", "v121"]),
  ("V13_0", ["13.0", "v130"]),
  ("V14_0", ["14.0", "v140"]),
  ("V15_0", ["15.0", "v150"]),
  ("V15_1", ["15.1", "v151"]),
  ("V16_0", ["16.0", "v160"])]

/-- The characters that a version has, with those of the versions before it. -/
def age? (name : String) : Option CharSet := do
  let i ← ages.findIdx? fun (_, names) => names.contains name
  let versions := (ages.take (i + 1)).map (·.1)
  return ageRuns.select versions.contains

end ResponseCheck.Unicode
