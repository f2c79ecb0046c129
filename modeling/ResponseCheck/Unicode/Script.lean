import ResponseCheck.Unicode.CharSet
import ResponseCheck.Unicode.Runs

/-!
# Scripts

Scripts are told by their four letters; code points without a script carry `Zzzz`. A character that
is in use with other scripts than its own, or with several of them, has script extensions, which are
written one after the other. The tables are lists of runs from U+0000 on: a length in base 36, then
the letters.
-/

namespace ResponseCheck.Unicode

/-- The runs of scripts. -/
def scriptRuns : Runs := labelledRuns [
  "1tZyyy qLatn 6Zyyy qLatn 1bZyyy 1Latn fZyyy 1Latn 5Zyyy nLatn 1Zyyy vLatn 1Zyyy chLatn 13Zyyy",
  "5Latn 5Zyyy 2Bopo kZyyy 34Zinh 4Grek 1Zyyy 3Grek 2Zzzz 4Grek 1Zyyy 1Grek 4Zzzz 1Grek 1Zyyy",
  "1Grek 1Zyyy 3Grek 1Zzzz 1Grek 1Zzzz kGrek 1Zzzz 1rGrek eCopt gGrek 3pCyrl 2Zinh 4pCyrl 1Zzzz",
  "12Armn 2Zzzz 1eArmn 2Zzzz 3Armn 1Zzzz 1jHebr 8Zzzz rHebr 4Zzzz 6Hebr bZzzz 5Arab 1Zyyy 6Arab",
  "1Zyyy eArab 1Zyyy 3Arab 1Zyyy wArab 1Zyyy aArab bZinh qArab 1Zinh 30Arab 1Zyyy yArab eSyrc",
  "1Zzzz 1oSyrc 2Zzzz 3Syrc 1cArab 1eThaa eZzzz 1nNkoo 2Zzzz 3Nkoo 1aSamr 2Zzzz fSamr 1Zzzz sMand",
  "2Zzzz 1Mand 1Zzzz bSyrc 5Zzzz vArab 1Zzzz 2Arab 5Zzzz 23Arab 1Zyyy tArab 29Deva 4Zinh fDeva",
  "2Zyyy qDeva 4Beng 1Zzzz 8Beng 2Zzzz 2Beng 2Zzzz mBeng 1Zzzz 7Beng 1Zzzz 1Beng 3Zzzz 4Beng",
  "2Zzzz 9Beng 2Zzzz 2Beng 2Zzzz 4Beng 8Zzzz 1Beng 4Zzzz 2Beng 1Zzzz 5Beng 2Zzzz pBeng 2Zzzz",
  "3Guru 1Zzzz 6Guru 4Zzzz 2Guru 2Zzzz mGuru 1Zzzz 7Guru 1Zzzz 2Guru 1Zzzz 2Guru 1Zzzz 2Guru",
  "2Zzzz 1Guru 1Zzzz 5Guru 4Zzzz 2Guru 2Zzzz 3Guru 3Zzzz 1Guru 7Zzzz 4Guru 1Zzzz 1Guru 7Zzzz",
  "hGuru aZzzz 3Gujr 1Zzzz 9Gujr 1Zzzz 3Gujr 1Zzzz mGujr 1Zzzz 7Gujr 1Zzzz 2Gujr 1Zzzz 5Gujr",
  "2Zzzz aGujr 1Zzzz 3Gujr 1Zzzz 3Gujr 2Zzzz 1Gujr fZzzz 4Gujr 2Zzzz cGujr 7Zzzz 7Gujr 1Zzzz",
  "3Orya 1Zzzz 8Orya 2Zzzz 2Orya 2Zzzz mOrya 1Zzzz 7Orya 1Zzzz 2Orya 1Zzzz 5Orya 2Zzzz 9Orya",
  "2Zzzz 2Orya 2Zzzz 3Orya 7Zzzz 3Orya 4Zzzz 2Orya 1Zzzz 5Orya 2Zzzz iOrya aZzzz 2Taml 1Zzzz",
  "6Taml 3Zzzz 3Taml 1Zzzz 4Taml 3Zzzz 2Taml 1Zzzz 1Taml 1Zzzz 2Taml 3Zzzz 2Taml 3Zzzz 3Taml",
  "3Zzzz cTaml 4Zzzz 5Taml 3Zzzz 3Taml 1Zzzz 4Taml 2Zzzz 1Taml 6Zzzz 1Taml eZzzz lTaml 5Zzzz",
  "dTelu 1Zzzz 3Telu 1Zzzz nTelu 1Zzzz gTelu 2Zzzz 9Telu 1Zzzz 3Telu 1Zzzz 4Telu 7Zzzz 2Telu",
  "1Zzzz 3Telu 2Zzzz 1Telu 2Zzzz 4Telu 2Zzzz aTelu 7Zzzz 9Telu dKnda 1Zzzz 3Knda 1Zzzz nKnda",
  "1Zzzz aKnda 1Zzzz 5Knda 2Zzzz 9Knda 1Zzzz 3Knda 1Zzzz 4Knda 7Zzzz 2Knda 6Zzzz 2Knda 1Zzzz",
  "4Knda 2Zzzz aKnda 1Zzzz 3Knda cZzzz dMlym 1Zzzz 3Mlym 1Zzzz 1fMlym 1Zzzz 3Mlym 1Zzzz 6Mlym",
  "4Zzzz gMlym 2Zzzz qMlym 1Zzzz 3Sinh 1Zzzz iSinh 3Zzzz oSinh 1Zzzz 9Sinh 1Zzzz 1Sinh 2Zzzz",
  "7Sinh 3Zzzz 1Sinh 4Zzzz 6Sinh 1Zzzz 1Sinh 1Zzzz 8Sinh 6Zzzz aSinh 2Zzzz 3Sinh cZzzz 1mThai",
  "4Zzzz 1Zyyy sThai 11Zzzz 2Laoo 1Zzzz 1Laoo 1Zzzz 5Laoo 1Zzzz oLaoo 1Zzzz 1Laoo 1Zzzz nLaoo",
  "2Zzzz 5Laoo 1Zzzz 1Laoo 1Zzzz 7Laoo 1Zzzz aLaoo 2Zzzz 4Laoo wZzzz 20Tibt 1Zzzz 10Tibt 4Zzzz",
  "13Tibt 1Zzzz 10Tibt 1Zzzz fTibt 1Zzzz 7Tibt 4Zyyy 2Tibt 11Zzzz 4gMymr 12Geor 1Zzzz 1Geor 5Zzzz",
  "1Geor 2Zzzz 17Geor 1Zyyy 4Geor 74Hang 21Ethi 1Zzzz 4Ethi 2Zzzz 7Ethi 1Zzzz 1Ethi 1Zzzz 4Ethi",
  "2Zzzz 15Ethi 1Zzzz 4Ethi 2Zzzz xEthi 1Zzzz 4Ethi 2Zzzz 7Ethi 1Zzzz 1Ethi 1Zzzz 4Ethi 2Zzzz",
  "fEthi 1Zzzz 1lEthi 1Zzzz 4Ethi 2Zzzz 1vEthi 2Zzzz wEthi 3Zzzz qEthi 6Zzzz 2eCher 2Zzzz 6Cher",
  "2Zzzz hsCans tOgam 3Zzzz 23Runr 3Zyyy bRunr 7Zzzz mTglg 9Zzzz 1Tglg lHano 2Zyyy 9Zzzz kBuhd",
  "cZzzz dTagb 1Zzzz 3Tagb 1Zzzz 2Tagb cZzzz 2mKhmr 2Zzzz aKhmr 6Zzzz aKhmr 6Zzzz 2Mong 2Zyyy",
  "1Mong 1Zyyy kMong 6Zzzz 2hMong 7Zzzz 17Mong 5Zzzz 1yCans aZzzz vLimb 1Zzzz cLimb 4Zzzz cLimb",
  "4Zzzz 1Limb 3Zzzz cLimb uTale 2Zzzz 5Tale bZzzz 18Talu 4Zzzz qTalu 6Zzzz bTalu 3Zzzz 2Talu",
  "wKhmr sBugi 2Zzzz 2Bugi 1rLana 1Zzzz tLana 2Zzzz bLana 6Zzzz aLana 6Zzzz eLana 2Zzzz vZinh",
  "1dZzzz 25Bali 1Zzzz 1eBali 1sSund 1gBatk 8Zzzz 4Batk 1kLepc 3Zzzz fLepc 3Zzzz 3Lepc 1cOlck",
  "bCyrl 5Zzzz 17Geor 2Zzzz 3Geor 8Sund 8Zzzz 3Zinh 1Zyyy dZinh 1Zyyy 7Zinh 4Zyyy 1Zinh 6Zyyy",
  "1Zinh 3Zyyy 2Zinh 1Zyyy 5Zzzz 12Latn 5Grek 1Cyrl 1dLatn 5Grek 4Latn 5Grek dLatn 1Cyrl 1yLatn",
  "1Grek 1sZinh 74Latn mGrek 2Zzzz 6Grek 2Zzzz 12Grek 2Zzzz 6Grek 2Zzzz 8Grek 1Zzzz 1Grek 1Zzzz",
  "1Grek 1Zzzz 1Grek 1Zzzz vGrek 2Zzzz 1hGrek 1Zzzz fGrek 1Zzzz eGrek 2Zzzz 6Grek 1Zzzz jGrek",
  "2Zzzz 3Grek 1Zzzz 9Grek 1Zzzz cZyyy 2Zinh 2fZyyy 1Zzzz bZyyy 1Latn 2Zzzz bZyyy 1Latn fZyyy",
  "1Zzzz dLatn 3Zzzz xZyyy fZzzz xZinh fZzzz 12Zyyy 1Grek 3Zyyy 2Latn 6Zyyy 1Latn rZyyy 1Latn",
  "hZyyy 15Latn 3Zyyy 4Zzzz iiZyyy mZzzz bZyyy lZzzz psZyyy 74Brai hgZyyy 2Zzzz wZyyy 1Zzzz",
  "2xZyyy 2oGlag wLatn 38Copt 5Zzzz 7Copt 12Geor 1Zzzz 1Geor 5Zzzz 1Geor 2Zzzz 1kTfng 7Zzzz 2Tfng",
  "eZzzz 1Tfng nEthi 9Zzzz 7Ethi 1Zzzz 7Ethi 1Zzzz 7Ethi 1Zzzz 7Ethi 1Zzzz 7Ethi 1Zzzz 7Ethi",
  "1Zzzz 7Ethi 1Zzzz 7Ethi 1Zzzz wCyrl 2mZyyy yZzzz qHani 1Zzzz 2hHani cZzzz 5yHani qZzzz lZyyy",
  "1Hani 1Zyyy 1Hani pZyyy 9Hani 4Zinh 2Hang 8Zyyy 4Hani 4Zyyy 1Zzzz 2eHira 2Zzzz 2Zinh 2Zyyy",
  "3Hira 1Zyyy 2iKana 2Zyyy 3Kana 5Zzzz 17Bopo 1Zzzz 2mHang 1Zzzz gZyyy wBopo 12Zyyy 9Zzzz 1Zyyy",
  "gKana vHang 1Zzzz 1sZyyy vHang 29Zyyy 1bKana 1Zyyy 2gKana 4oZyyy 534Hani 1sZyyy g74Hani wdYiii",
  "3Zzzz 1jYiii 9Zzzz 1cLisu 8cVaii kZzzz 2oCyrl 2gBamu 8Zzzz yZyyy 2uLatn 3Zyyy 1vLatn 2Zzzz",
  "2Latn 1Zzzz 1Latn 1Zzzz 8Latn lZzzz eLatn 19Sylo 3Zzzz aZyyy 6Zzzz 1kPhag 8Zzzz 1ySaur 8Zzzz",
  "cSaur 6Zzzz wDeva 1aKali 1Zyyy 1Kali 10Rjng bZzzz 1Rjng tHang 3Zzzz 26Java 1Zzzz 1Zyyy aJava",
  "4Zzzz 2Java vMymr 1Zzzz 1jCham 9Zzzz eCham 2Zzzz aCham 2Zzzz 4Cham wMymr 1vTavt oZzzz 5Tavt",
  "nMtei aZzzz 6Ethi 2Zzzz 6Ethi 2Zzzz 6Ethi 9Zzzz 7Ethi 1Zzzz 7Ethi 1Zzzz 17Latn 1Zyyy 9Latn",
  "1Grek 4Latn 2Zyyy 4Zzzz 28Cher 1aMtei 2Zzzz aMtei 6Zzzz 8mcHang cZzzz nHang 4Zzzz 1dHang",
  "6isZzzz a6Hani 2Zzzz 2yHani 12Zzzz 7Latn cZzzz 5Armn 5Zzzz qHebr 1Zzzz 5Hebr 1Zzzz 1Hebr 1Zzzz",
  "2Hebr 1Zzzz 2Hebr 1Zzzz aHebr 37Arab gZzzz a3Arab 2Zyyy 28Arab 2Zzzz 1iArab 7Zzzz 1Arab wZzzz",
  "gArab gZinh aZyyy 6Zzzz eZinh 2Cyrl zZyyy 1Zzzz jZyyy 1Zzzz 4Zyyy 4Zzzz 5Arab 1Zzzz 3rArab",
  "2Zzzz 1Zyyy 1Zzzz wZyyy qLatn 6Zyyy qLatn bZyyy aKana 1Zyyy 19Kana 2Zyyy vHang 3Zzzz 6Hang",
  "2Zzzz 6Hang 2Zzzz 6Hang 2Zzzz 3Hang 3Zzzz 7Zyyy 1Zzzz 7Zyyy aZzzz 5Zyyy 2Zzzz cLinb 1Zzzz",
  "qLinb 1Zzzz jLinb 1Zzzz 2Linb 1Zzzz fLinb 2Zzzz eLinb yZzzz 3fLinb 5Zzzz 3Zyyy 4Zzzz 19Zyyy",
  "3Zzzz 9Zyyy 27Grek 1Zzzz dZyyy 3Zzzz 1Grek 1bZzzz 19Zyyy 1Zinh 3mZzzz tLyci 3Zzzz 1dCari fZzzz",
  "1Zinh rZyyy 4Zzzz 10Ital 9Zzzz 3Ital rGoth 5Zzzz 17Perm 5Zzzz uUgar 1Zzzz 1Ugar 10Xpeo 4Zzzz",
  "eXpeo 16Zzzz 28Dsrt 1cShaw uOsma 2Zzzz aOsma 6Zzzz 10Osge 4Zzzz 10Osge 4Zzzz 14Elba 8Zzzz",
  "1gAghb bZzzz 1Aghb bVith 1Zzzz fVith 1Zzzz 7Vith 1Zzzz 2Vith 1Zzzz bVith 1Zzzz fVith 1Zzzz",
  "7Vith 1Zzzz 2Vith 3Zzzz 1gTodr cZzzz 8nLina 9Zzzz mLina aZzzz 8Lina oZzzz 6Latn 1Zzzz 16Latn",
  "1Zzzz 9Latn 1xZzzz 6Cprt 2Zzzz 1Cprt 1Zzzz 18Cprt 1Zzzz 2Cprt 3Zzzz 1Cprt 2Zzzz 1Cprt mArmi",
  "1Zzzz 9Armi wPalm vNbat 8Zzzz 9Nbat 1cZzzz jHatr 1Zzzz 2Hatr 5Zzzz 5Hatr sPhnx 3Zzzz 1Phnx",
  "qLydi 5Zzzz 1Lydi 1sZzzz wMero oMerc 4Zzzz kMerc 2Zzzz 1aMerc 4Khar 1Zzzz 2Khar 5Zzzz 8Khar",
  "1Zzzz 3Khar 1Zzzz tKhar 2Zzzz 3Khar 4Zzzz aKhar 7Zzzz 9Khar 7Zzzz wSarb wNarb wZzzz 13Mani",
  "4Zzzz cMani 9Zzzz 1iAvst 3Zzzz 7Avst mPrti 2Zzzz 8Prti jPhli 5Zzzz 8Phli iPhlp 7Zzzz 4Phlp",
  "cZzzz 7Phlp 28Zzzz 21Orkh 1jZzzz 1fHung dZzzz 1fHung 7Zzzz 6Hung 14Rohg 8Zzzz aRohg 6Zzzz",
  "12Gara 3Zzzz tGara 8Zzzz 2Gara 5sZzzz vArab 1Zzzz 16Yezi 1Zzzz 3Yezi 2Zzzz 2Yezi gZzzz 3Arab",
  "1jZzzz 4Arab 14Sogo 8Zzzz 16Sogd mZzzz qOugr 12Zzzz sChrs kZzzz nElym 9Zzzz 26Brah 4Zzzz",
  "10Brah 9Zzzz 1Brah 1vKthi aZzzz 1Kthi 2Zzzz pSora 7Zzzz aSora 6Zzzz 1hCakm 1Zzzz iCakm 8Zzzz",
  "13Mahj 9Zzzz 2oShrd 1Zzzz kSinh bZzzz iKhoj 1Zzzz 1bKhoj 1qZzzz 7Mult 1Zzzz 1Mult 1Zzzz 4Mult",
  "1Zzzz fMult 1Zzzz bMult 6Zzzz 1nSind 5Zzzz aSind 6Zzzz 4Gran 1Zzzz 8Gran 2Zzzz 2Gran 2Zzzz",
  "mGran 1Zzzz 7Gran 1Zzzz 2Gran 1Zzzz 5Gran 1Zzzz 1Zinh 9Gran 2Zzzz 2Gran 2Zzzz 3Gran 2Zzzz",
  "1Gran 6Zzzz 1Gran 5Zzzz 7Gran 2Zzzz 7Gran 3Zzzz 5Gran bZzzz aTutg 1Zzzz 1Tutg 2Zzzz 1Tutg",
  "1Zzzz 12Tutg 1Zzzz aTutg 1Zzzz 1Tutg 2Zzzz 1Tutg 1Zzzz 4Tutg 1Zzzz aTutg 1Zzzz 2Tutg 8Zzzz",
  "2Tutg tZzzz 2kNewa 1Zzzz 5Newa uZzzz 20Tirh 8Zzzz aTirh 4mZzzz 1iSidd 2Zzzz 12Sidd yZzzz",
  "1xModi bZzzz aModi 6Zzzz dMong jZzzz 1mTakr 6Zzzz aTakr 6Zzzz kMymr sZzzz rAhom 2Zzzz fAhom",
  "4Zzzz nAhom 55Zzzz 1oDogr 2sZzzz 2bWara cZzzz 1Wara 7Diak 2Zzzz 1Diak 2Zzzz 8Diak 1Zzzz 2Diak",
  "1Zzzz uDiak 1Zzzz 2Diak 2Zzzz cDiak 9Zzzz aDiak 1yZzzz 8Nand 2Zzzz 1aNand 2Zzzz bNand rZzzz",
  "20Zanb 8Zzzz 2bSoyo dZzzz gCans 1lPauc 7Zzzz aDeva 52Zzzz ySunu eZzzz aSunu 6Zzzz 9Bhks 1Zzzz",
  "19Bhks 1Zzzz eBhks aZzzz tBhks 3Zzzz wMarc 2Zzzz mMarc 1Zzzz eMarc 21Zzzz 7Gonm 1Zzzz 2Gonm",
  "1Zzzz 18Gonm 3Zzzz 1Gonm 1Zzzz 2Gonm 1Zzzz 9Gonm 8Zzzz aGonm 6Zzzz 6Gong 1Zzzz 2Gong 1Zzzz",
  "11Gong 1Zzzz 2Gong 1Zzzz 6Gong 7Zzzz aGong 8mZzzz pMaka 7Zzzz hKawi 1Zzzz 15Kawi 3Zzzz tKawi",
  "2dZzzz 1Lisu fZzzz 1eTaml dZzzz 1Taml pmXsux 2uZzzz 33Xsux 1Zzzz 5Xsux bZzzz 5gXsux 218Zzzz",
  "2rCpmn dZzzz uuEgyp aZzzz 32zEgyp 5Zzzz g7Hluw 5a1Zzzz 1mGukh 1c6Zzzz ftBamu 7Zzzz vMroo 1Zzzz",
  "aMroo 4Zzzz 2Mroo 27Tnsa 1Zzzz aTnsa 6Zzzz uBass 2Zzzz 6Bass aZzzz 1yHmng aZzzz aHmng 1Zzzz",
  "7Hmng 1Zzzz lHmng 5Zzzz jHmng c0Zzzz 1mKrai 5iZzzz 2jMedf 2tZzzz 23Plrd 4Zzzz 1lPlrd 7Zzzz",
  "hPlrd 1sZzzz 1Tang 1Nshu 2Hani 1Kits bZzzz 2Hani eZzzz 4qgTang 8Zzzz lcTang d2Kits 15Zzzz",
  "1Kits 9Tang 6w7Zzzz 4Kana 1Zzzz 7Kana 1Zzzz 2Kana 1Zzzz 1Kana 7zHira 3Kana fZzzz 1Hira tZzzz",
  "3Hira 2Zzzz 1Kana eZzzz 4Kana 8Zzzz b0Nshu 1s4Zzzz 2zDupl 5Zzzz dDupl 3Zzzz 9Dupl 7Zzzz aDupl",
  "2Zzzz 4Dupl 4Zyyy 318Zzzz 6yZyyy 6Zzzz c4Zyyy 24Zzzz 1aZinh 2Zzzz nZinh 9Zzzz 38Zyyy 1oZzzz",
  "6uZyyy aZzzz 13Zyyy 2Zzzz 1qZyyy 3Zinh hZyyy 8Zinh 2Zyyy 7Zinh uZyyy 4Zinh 1pZyyy lZzzz 1yGrek",
  "3eZzzz kZyyy cZzzz kZyyy cZzzz 2fZyyy 9Zzzz pZyyy 3rZzzz 2dZyyy 1Zzzz 1zZyyy 1Zzzz 2Zyyy 2Zzzz",
  "1Zyyy 2Zzzz 2Zyyy 2Zzzz 4Zyyy 1Zzzz cZyyy 1Zzzz 1Zyyy 1Zzzz 7Zyyy 1Zzzz 1tZyyy 1Zzzz 4Zyyy",
  "2Zzzz 8Zyyy 1Zzzz 7Zyyy 1Zzzz sZyyy 1Zzzz 4Zyyy 1Zzzz 5Zyyy 1Zzzz 1Zyyy 3Zzzz 7Zyyy 1Zzzz",
  "9gZyyy 2Zzzz 84Zyyy 2Zzzz 1eZyyy i4Sgnw fZzzz 5Sgnw 1Zzzz fSgnw uoZzzz vLatn 6Zzzz 6Latn",
  "5xZzzz 7Glag 1Zzzz hGlag 2Zzzz 7Glag 1Zzzz 2Glag 1Zzzz 5Glag 5Zzzz 1qCyrl xZzzz 1Cyrl 34Zzzz",
  "19Hmnp 3Zzzz eHmnp 2Zzzz aHmnp 4Zzzz 2Hmnp 8wZzzz vToto hZzzz 1mWcho 5Zzzz 1Wcho cwZzzz 16Nagm",
  "5yZzzz 17Onao 4Zzzz 1Onao dcZzzz 7Ethi 1Zzzz 4Ethi 1Zzzz 2Ethi 1Zzzz fEthi 1Zzzz 5hMend 2Zzzz",
  "gMend 15Zzzz 24Adlm 4Zzzz aAdlm 4Zzzz 2Adlm ltZzzz 1wZyyy 24Zzzz 1pZyyy 5eZzzz 4Arab 1Zzzz",
  "rArab 1Zzzz 2Arab 1Zzzz 1Arab 2Zzzz 1Arab 1Zzzz aArab 1Zzzz 4Arab 1Zzzz 1Arab 1Zzzz 1Arab",
  "6Zzzz 1Arab 4Zzzz 1Arab 1Zzzz 1Arab 1Zzzz 1Arab 1Zzzz 3Arab 1Zzzz 2Arab 1Zzzz 1Arab 2Zzzz",
  "1Arab 1Zzzz 1Arab 1Zzzz 1Arab 1Zzzz 1Arab 1Zzzz 1Arab 1Zzzz 2Arab 1Zzzz 1Arab 2Zzzz 4Arab",
  "1Zzzz 7Arab 1Zzzz 4Arab 1Zzzz 4Arab 1Zzzz 1Arab 1Zzzz aArab 1Zzzz hArab 5Zzzz 3Arab 1Zzzz",
  "5Arab 1Zzzz hArab 1gZzzz 2Arab 7iZzzz 18Zyyy 4Zzzz 2sZyyy cZzzz fZyyy 2Zzzz fZyyy 1Zzzz fZyyy",
  "1Zzzz 11Zyyy aZzzz 4uZyyy 1kZzzz qZyyy 1Hira 2Zyyy dZzzz 18Zyyy 4Zzzz 9Zyyy 7Zzzz 2Zyyy eZzzz",
  "6Zyyy 4aZzzz rcZyyy 4Zzzz hZyyy 3Zzzz dZyyy 3Zzzz 3bZyyy 4Zzzz 2nZyyy 6Zzzz cZyyy 4Zzzz 1Zyyy",
  "fZzzz cZyyy 4Zzzz 1kZyyy 8Zzzz aZyyy 6Zzzz 14Zyyy 8Zzzz uZyyy 2Zzzz cZyyy 4Zzzz 2Zyyy 1qZzzz",
  "9gZyyy cZzzz eZyyy 2Zzzz dZyyy 3Zzzz aZyyy 5Zzzz 1kZyyy 7Zzzz fZyyy 2Zzzz bZyyy 6Zzzz 9Zyyy",
  "7Zzzz 43Zyyy 1Zzzz 2uZyyy smZzzz wyoHani wZzzz 37eHani 6Zzzz 66Hani 2Zzzz 4g2Hani eZzzz",
  "5rlHani fZzzz haHani 1wiZzzz f2Hani 15uZzzz 3t7Hani 5Zzzz 38gHani f975Zzzz 1Zyyy uZzzz 2oZyyy",
  "3kZzzz 6oZinh 47bkZzzz"]

/-- The runs of script extensions; `XX` where these are the script alone. -/
def extensionRuns : Runs := labelledRuns [
  "53XX 1AvstCariCoptDuplElbaGeorGlagGongGothGrekHaniLatnLydiMahjPermShaw ecXX",
  "1BengCyrlDevaLatnLisuThaiToto aXX 1BopoLatn 1XX 3BopoLatn 1XX 1LatnLisu 9XX 1LatnThai 1XX",
  "1BopoLatn 12XX 1CherCoptCyrlGrekLatnPermSunuTale 1CherCyrlGrekLatnOsgeSunuTaleTodr",
  "1CherCyrlLatnTfng 1GlagLatnSunuSyrcThai 1AghbCherCoptCyrlGothGrekLatnOsgeSyrcTfngTodr",
  "1CoptElbaGlagGothKanaLatn 1CyrlGrekLatnPerm 1CoptDuplHebrLatnPermSyrcTaleTfngTodr",
  "1ArmnCyrlDuplGothGrekHebrLatnPermSyrcTale 1LatnTfng 1DuplLatnSyrc 1CherCyrlLatnOsge",
  "1CherLatnTale 1LatnSunu 1EthiLatn 1XX 1LatnSunu 1CyrlLatnTodr 1XX 1GrekLatnPermTodr cXX",
  "1LatnSyrc 2XX 1CherDuplKanaLatnSyrc 1CherDuplLatnSyrc 1LatnSyrc 7XX 1LatnSunuSyrc 1LatnSyrc",
  "1XX 1CherLatnSyrc 1AghbCherGothLatnSunuThai gXX 1Grek 2XX 1Grek iXX 1LatnOsge 5XX",
  "1AghbLatnTodr 4XX dLatn 4XX 2CoptGrek 7hXX 1CyrlPerm 1CyrlGlag 2CyrlLatn 1CyrlGlag 75XX",
  "1ArmnGeorGlag 3mXX 1ArabGaraNkooRohgSyrcThaaYezi eXX 1ArabGaraNkooRohgSyrcThaaYezi",
  "1ArabSyrcThaa 2XX 1AdlmArabGaraNkooRohgSyrcThaaYezi wXX 1AdlmArabMandManiOugrPhlpRohgSogdSyrc",
  "aXX bArabSyrc aXX aArabThaaYezi 6XX 1ArabSyrc 2rXX 1ArabRohg hoXX",
  "1BengDevaGranGujrGuruKndaLatnMlymOryaShrdTamlTeluTirh",
  "1BengDevaGranGujrGuruKndaLatnMlymOryaTamlTeluTirh hXX",
  "1BengDevaDogrGongGonmGranGujrGuruKndaMahjMlymNandOnaoOryaSindSinhSyloTakrTamlTeluTirh",
  "1BengDevaDogrGongGonmGranGujrGukhGuruKndaLimbMahjMlymNandOnaoOryaSindSinhSyloTakrTamlTeluTirh",
  "aDevaDogrKthiMahj 3aXX aBengCakmSylo 3aXX aGuruMult 3aXX aGujrKhoj 6uXX eGranTaml 6qXX",
  "aKndaNandTutg nkXX aCakmMymrTale 4xXX 1GeorGlagLatn 167XX 3Runr 1zXX 2BuhdHanoTagbTglg 5nXX",
  "2MongPhag 1XX 1MongPhag y2XX 1BengDevaGranKnda 1Deva 1BengDevaGranKnda 1DevaGranKnda 1Deva",
  "2BengDeva 1DevaShrd 1BengDeva 1DevaShrd 1DevaKndaMlymOryaTamlTelu 1Deva 2DevaShrd 2Deva",
  "1DevaShrd 1BengDeva 7Deva 1DevaNand 1BengDeva 2Deva 1BengDeva 4Deva",
  "1BengDevaGranKndaMlymNandOryaSinhTeluTirhTutg 1DevaGran 1DevaGranKndaTutg 2BengDeva 1Beng",
  "2DevaGran 1Nand 5hXX 2Grek 1iXX 1CyrlLatnSyrc 1XX 1Syrc foXX 1LatnMongPhag vXX 1AdlmArab aXX",
  "1CariGeorGlagHungLyciOrkh 2XX 1CariGrekHungMero 42XX 1DevaGranLatn 2liXX 1CoptLatn oXX",
  "1AvstOrkh 1AvstCariGeorHungKthiLydiSamr aXX 1Dupl 4XX 1AdlmArabHung 1XX 1CyrlGlag bwXX",
  "gHaniTang 1XX 1BopoHangHaniHiraKanaMongYiii 1BopoHangHaniHiraKanaMongPhagYiii",
  "1BopoHangHaniHiraKana 2XX 1Hani 1XX 2BopoHangHaniHiraKanaMongTibtYiii",
  "2BopoHangHaniHiraKanaLisuMongTibtYiii 6BopoHangHaniHiraKanaYiii 1XX 1BopoHangHaniHiraKana",
  "8BopoHangHaniHiraKanaYiii 4BopoHangHaniHiraKana aXX 4BopoHani 2XX 1BopoHangHaniHiraKana",
  "5HiraKana 1XX 1BopoHangHaniHiraKana 4XX 2HaniHiraKana 2Hani 2hXX 4HiraKana 3XX 1HiraKana 2iXX",
  "1BopoHangHaniHiraKanaYiii 1HiraKana 43XX gHani wXX 12Hani 9XX 1HaniTang 1cXX 14Hani 1kXX",
  "1dHani fXX cHani 1fXX 1Hani 2gXX pHani aXX 5Hani 2oXX vHani mlsXX 1CyrlGlag 40XX 8HaniLatn",
  "88XX 3DevaDogrGujrGuruKhojKndaKthiMahjMlymModiNandShrdSindTakrTirhTutg",
  "3DevaDogrGujrGuruKhojKndaKthiMahjModiNandShrdSindTakrTirhTutg",
  "2DevaDogrGujrGuruKhojKthiMahjModiSindTakrTirh",
  "1DevaDogrGujrGuruKhojKthiMahjModiShrdSindTakrTirh",
  "1DevaDogrGujrGuruKhojKthiMahjModiSindTakrTirh 53XX 1BengDevaTutg 1XX 1DevaTaml 1mXX",
  "1KaliLatnMymr 4gXX 1BugiJava ghaXX 2ArabNkoo 4yXX 1ArabThaa aXX 1ArabThaa 1zXX",
  "2BopoHangHaniHiraKana 7uXX 5BopoHangHaniHiraKanaYiii aXX 1HiraKana 19XX 2HiraKana 9sXX",
  "2CpmnCprtLinb 1CprtLinb 4XX 19CprtLinaLinb 3XX 9CprtLinb bkXX sArabCopt 1kmXX 1ManiOugr 1laXX",
  "1GranTaml 1XX 1GranTaml 1jXX 2GranTaml 2hfXX 2GranTaml 1XX 1GranTaml uz0XX 4Dupl 4hoXX iHani",
  "63iXX 2Hani l57yXX"]

/-- The characters of a script. -/
def scriptSet (code : String) : CharSet := scriptRuns.select (· = code)

/-- The characters with a script among their script extensions. -/
def extensionSet (code : String) : CharSet :=
  let alone := (scriptSet code).inter (extensionRuns.select (· = "XX"))
  -- Only the first letter of a code is a capital, so that no code starts within another one.
  alone.union (extensionRuns.select fun label => 1 < (label.splitOn code).length)

/-- The scripts with their normalized names. -/
def scriptNames : List (String × List String) := [
  ("Adlm", ["adlm", "adlam"]),
  ("Aghb", ["aghb", "caucasianalbanian"]),
  ("Ahom", ["ahom"]),
  ("Arab", ["arab", "arabic"]),
  ("Armi", ["armi", "imperialaramaic"]),
  ("Armn", ["armn", "armenian"]),
  ("Avst", ["avst", "avestan"]),
  ("Bali", ["bali", "balinese"]),
  ("Bamu", ["bamu", "bamum"]),
  ("Bass", ["bass", "bassavah"]),
  ("Batk", ["batk", "batak"]),
  ("Beng", ["beng", "bengali"]),
  ("Bhks", ["bhks", "bhaiksuki"]),
  ("Bopo", ["bopo", "bopomofo"]),
  ("Brah", ["brah", "brahmi"]),
  ("Brai", ["brai", "braille"]),
  ("Bugi", ["bugi", "buginese"]),
  ("Buhd", ["buhd", "buhid"]),
  ("Cakm", ["cakm", "chakma"]),
  ("Cans", ["cans", "canadianaboriginal"]),
  ("Cari", ["cari", "carian"]),
  ("Cham", ["cham"]),
  ("Cher", ["cher", "cherokee"]),
  ("Chrs", ["chrs", "chorasmian"]),
  ("Copt", ["copt", "coptic", "qaac"]),
  ("Cpmn", ["cpmn", "cyprominoan"]),
  ("Cprt", ["cprt", "cypriot"]),
  ("Cyrl", ["cyrl", "cyrillic"]),
  ("Deva", ["deva", "devanagari"]),
  ("Diak", ["diak", "divesakuru"]),
  ("Dogr", ["dogr", "dogra"]),
  ("Dsrt", ["dsrt", "deseret"]),
  ("Dupl", ["dupl", "duployan"]),
  ("Egyp", ["egyp", "egyptianhieroglyphs"]),
  ("Elba", ["elba", "elbasan"]),
  ("Elym", ["elym", "elymaic"]),
  ("Ethi", ["ethi", "ethiopic"]),
  ("Gara", ["gara", "garay"]),
  ("Geor", ["geor", "georgian"]),
  ("Glag", ["glag", "glagolitic"]),
  ("Gong", ["gong", "gunjalagondi"]),
  ("Gonm", ["gonm", "masaramgondi"]),
  ("Goth", ["goth", "gothic"]),
  ("Gran", ["gran", "grantha"]),
  ("Grek", ["grek", "greek"]),
  ("Gujr", ["gujr", "gujarati"]),
  ("Gukh", ["gukh", "gurungkhema"]),
  ("Guru", ["guru", "gurmukhi"]),
  ("Hang", ["hang", "hangul"]),
  ("Hani", ["hani", "han"]),
  ("Hano", ["hano", "hanunoo"]),
  ("Hatr", ["hatr", "hatran"]),
  ("Hebr", ["hebr", "hebrew"]),
  ("Hira", ["hira", "hiragana"]),
  ("Hluw", ["hluw", "anatolianhieroglyphs"]),
  ("Hmng", ["hmng", "pahawhhmong"]),
  ("Hmnp", ["hmnp", "nyiakengpuachuehmong"]),
  ("Hung", ["hung", "oldhungarian"]),
  ("Ital", ["ital", "olditalic"]),
  ("Java", ["java", "javanese"]),
  ("Kali", ["kali", "kayahli"]),
  ("Kana", ["kana", "katakana"]),
  ("Kawi", ["kawi"]),
  ("Khar", ["khar", "kharoshthi"]),
  ("Khmr", ["khmr", "khmer"]),
  ("Khoj", ["khoj", "khojki"]),
  ("Kits", ["kits", "khitansmallscript"]),
  ("Knda", ["knda", "kannada"]),
  ("Krai", ["krai", "kiratrai"]),
  ("Kthi", ["kthi", "kaithi"]),
  ("Lana", ["lana", "taitham"]),
  ("Laoo", ["laoo", "lao"]),
  ("Latn", ["latn", "latin"]),
  ("Lepc", ["lepc", "lepcha"]),
  ("Limb", ["limb", "limbu"]),
  ("Lina", ["lina", "lineara"]),
  ("Linb", ["linb", "linearb"]),
  ("Lisu", ["lisu"]),
  ("Lyci", ["lyci", "lycian"]),
  ("Lydi", ["lydi", "lydian"]),
  ("Mahj", ["mahj", "mahajani"]),
  ("Maka", ["maka", "makasar"]),
  ("Mand", ["mand", "mandaic"]),
  ("Mani", ["mani", "manichaean"]),
  ("Marc", ["marc", "marchen"]),
  ("Medf", ["medf", "medefaidrin"]),
  ("Mend", ["mend", "mendekikakui"]),
  ("Merc", ["merc", "meroiticcursive"]),
  ("Mero", ["mero", "meroitichieroglyphs"]),
  ("Mlym", ["mlym", "malayalam"]),
  ("Modi", ["modi"]),
  ("Mong", ["mong", "mongolian"]),
  ("Mroo", ["mroo", "mro"]),
  ("Mtei", ["mtei", "meeteimayek"]),
  ("Mult", ["mult", "multani"]),
  ("Mymr", ["mymr", "myanmar"]),
  ("Nagm", ["nagm", "nagmundari"]),
  ("Nand", ["nand", "nandinagari"]),
  ("Narb", ["narb", "oldnortharabian"]),
  ("Nbat", ["nbat", "nabataean"]),
  ("Newa", ["newa"]),
  ("Nkoo", ["nkoo", "nko"]),
  ("Nshu", ["nshu", "nushu"]),
  ("Ogam", ["ogam", "ogham"]),
  ("Olck", ["olck", "olchiki"]),
  ("Onao", ["onao", "olonal"]),
  ("Orkh", ["orkh", "oldturkic"]),
  ("Orya", ["orya", "oriya"]),
  ("Osge", ["osge", "osage"]),
  ("Osma", ["osma", "osmanya"]),
  ("Ougr", ["ougr", "olduyghur"]),
  ("Palm", ["palm", "palmyrene"]),
  ("Pauc", ["pauc", "paucinhau"]),
  ("Perm", ["perm", "oldpermic"]),
  ("Phag", ["phag", "phagspa"]),
  ("Phli", ["phli", "inscriptionalpahlavi"]),
  ("Phlp", ["phlp", "psalterpahlavi"]),
  ("Phnx", ["phnx", "phoenician"]),
  ("Plrd", ["plrd", "miao"]),
  ("Prti", ["prti", "inscriptionalparthian"]),
  ("Rjng", ["rjng", "rejang"]),
  ("Rohg", ["rohg", "hanifirohingya"]),
  ("Runr", ["runr", "runic"]),
  ("Samr", ["samr", "samaritan"]),
  ("Sarb", ["sarb", "oldsoutharabian"]),
  ("Saur", ["saur", "saurashtra"]),
  ("Sgnw", ["sgnw", "signwriting"]),
  ("Shaw", ["shaw", "shavian"]),
  ("Shrd", ["shrd", "sharada"]),
  ("Sidd", ["sidd", "siddham"]),
  ("Sind", ["sind", "khudawadi"]),
  ("Sinh", ["sinh", "sinhala"]),
  ("Sogd", ["sogd", "sogdian"]),
  ("Sogo", ["sogo", "oldsogdian"]),
  ("Sora", ["sora", "sorasompeng"]),
  ("Soyo", ["soyo", "soyombo"]),
  ("Sund", ["sund", "sundanese"]),
  ("Sunu", ["sunu", "sunuwar"]),
  ("Sylo", ["sylo", "sylotinagri"]),
  ("Syrc", ["syrc", "syriac"]),
  ("Tagb", ["tagb", "tagbanwa"]),
  ("Takr", ["takr", "takri"]),
  ("Tale", ["tale", "taile"]),
  ("Talu", ["talu", "newtailue"]),
  ("Taml", ["taml", "tamil"]),
  ("Tang", ["tang", "tangut"]),
  ("Tavt", ["tavt", "taiviet"]),
  ("Telu", ["telu", "telugu"]),
  ("Tfng", ["tfng", "tifinagh"]),
  ("Tglg", ["tglg", "tagalog"]),
  ("Thaa", ["thaa", "thaana"]),
  ("Thai", ["thai"]),
  ("Tibt", ["tibt", "tibetan"]),
  ("Tirh", ["tirh", "tirhuta"]),
  ("Tnsa", ["tnsa", "tangsa"]),
  ("Todr", ["todr", "todhri"]),
  ("Toto", ["toto"]),
  ("Tutg", ["tutg", "tulutigalari"]),
  ("Ugar", ["ugar", "ugaritic"]),
  ("Vaii", ["vaii", "vai"]),
  ("Vith", ["vith", "vithkuqi"]),
  ("Wara", ["wara", "warangciti"]),
  ("Wcho", ["wcho", "wancho"]),
  ("Xpeo", ["xpeo", "oldpersian"]),
  ("Xsux", ["xsux", "cuneiform"]),
  ("Yezi", ["yezi", "yezidi"]),
  ("Yiii", ["yiii", "yi"]),
  ("Zanb", ["zanb", "zanabazarsquare"]),
  ("Zinh", ["zinh", "inherited", "qaai"]),
  ("Zyyy", ["zyyy", "common"])]

/-- The script with the given normalized name. -/
def script? (name : String) : Option String := scriptNames.findSome? fun (code, names) =>
  if names.contains name then some code else none

end ResponseCheck.Unicode
