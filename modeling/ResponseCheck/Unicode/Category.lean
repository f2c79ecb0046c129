import ResponseCheck.Unicode.Runs

/-!
# General categories

Every code point has one of thirty general categories. The table is a list of runs from U+0000 on:
a length in base 36, then the two letters of the category. Queries also name groups of categories
and three sets that are none.
-/

namespace ResponseCheck.Unicode

/-- The runs of general categories. -/
def categoryRuns : Runs := labelledRuns [
  "wCc 1Zs 3Po 1Sc 3Po 1Ps 1Pe 1Po 1Sm 1Po 1Pd 2Po aNd 2Po 3Sm 2Po qLu 1Ps 1Po 1Pe 1Sk 1Pc 1Sk",
  "qLl 1Ps 1Sm 1Pe 1Sm xCc 1Zs 1Po 4Sc 1So 1Po 1Sk 1So 1Lo 1Pi 1Sm 1Cf 1So 1Sk 1So 1Sm 2No 1Sk",
  "1Ll 2Po 1Sk 1No 1Lo 1Pf 3No 1Po nLu 1Sm 7Lu oLl 1Sm 8Ll 1Lu 1Ll 1Lu 1Ll 1Lu 1Ll 1Lu 1Ll 1Lu",
  "1Ll 1Lu 1Ll 1Lu 1Ll 1Lu 1Ll 1Lu 1Ll 1Lu 1Ll 1Lu 1Ll 1Lu 1Ll 1Lu 1Ll 1Lu 1Ll 1Lu 1Ll 1Lu 1Ll",
  "1Lu 1Ll 1Lu 1Ll 1Lu 1Ll 1Lu 1Ll 1Lu 1Ll 1Lu 1Ll 1Lu 1Ll 1Lu 1Ll 1Lu 1Ll 1Lu 1Ll 1Lu 1Ll 1Lu",
  "2Ll 1Lu 1Ll 1Lu 1Ll 1Lu 1Ll 1Lu 1Ll 1Lu 1Ll 1Lu 1Ll 1Lu 1Ll 1Lu 2Ll 1Lu 1Ll 1Lu 1Ll 1Lu 1Ll",
  "1Lu 1Ll 1Lu 1Ll 1Lu 1Ll 1Lu 1Ll 1Lu 1Ll 1Lu 1Ll 1Lu 1Ll 1Lu 1Ll 1Lu 1Ll 1Lu 1Ll 1Lu 1Ll 1Lu",
  "1Ll 1Lu 1Ll 1Lu 1Ll 1Lu 1Ll 1Lu 1Ll 1Lu 1Ll 1Lu 1Ll 1Lu 1Ll 1Lu 1Ll 2Lu 1Ll 1Lu 1Ll 1Lu 3Ll",
  "2Lu 1Ll 1Lu 1Ll 2Lu 1Ll 3Lu 2Ll 4Lu 1Ll 2Lu 1Ll 3Lu 3Ll 2Lu 1Ll 2Lu 1Ll 1Lu 1Ll 1Lu 1Ll 2Lu",
  "1Ll 1Lu 2Ll 1Lu 1Ll 2Lu 1Ll 3Lu 1Ll 1Lu 1Ll 2Lu 2Ll 1Lo 1Lu 3Ll 4Lo 1Lu 1Lt 1Ll 1Lu 1Lt 1Ll",
  "1Lu 1Lt 1Ll 1Lu 1Ll 1Lu 1Ll 1Lu 1Ll 1Lu 1Ll 1Lu 1Ll 1Lu 1Ll 1Lu 1Ll 1Lu 2Ll 1Lu 1Ll 1Lu 1Ll",
  "1Lu 1Ll 1Lu 1Ll 1Lu 1Ll 1Lu 1Ll 1Lu 1Ll 1Lu 1Ll 1Lu 2Ll 1Lu 1Lt 1Ll 1Lu 1Ll 3Lu 1Ll 1Lu 1Ll",
  "1Lu 1Ll 1Lu 1Ll 1Lu 1Ll 1Lu 1Ll 1Lu 1Ll 1Lu 1Ll 1Lu 1Ll 1Lu 1Ll 1Lu 1Ll 1Lu 1Ll 1Lu 1Ll 1Lu",
  "1Ll 1Lu 1Ll 1Lu 1Ll 1Lu 1Ll 1Lu 1Ll 1Lu 1Ll 1Lu 1Ll 1Lu 1Ll 1Lu 1Ll 1Lu 1Ll 1Lu 1Ll 1Lu 1Ll",
  "1Lu 1Ll 1Lu 1Ll 1Lu 1Ll 1Lu 1Ll 1Lu 7Ll 2Lu 1Ll 2Lu 2Ll 1Lu 1Ll 4Lu 1Ll 1Lu 1Ll 1Lu 1Ll 1Lu",
  "1Ll 1Lu 1xLl 1Lo rLl iLm 4Sk cLm eSk 5Lm 7Sk 1Lm 1Sk 1Lm hSk 34Mn 1Lu 1Ll 1Lu 1Ll 1Lm 1Sk 1Lu",
  "1Ll 2Cn 1Lm 3Ll 1Po 1Lu 4Cn 2Sk 1Lu 1Po 3Lu 1Cn 1Lu 1Cn 2Lu 1Ll hLu 1Cn 9Lu zLl 1Lu 2Ll 3Lu",
  "3Ll 1Lu 1Ll 1Lu 1Ll 1Lu 1Ll 1Lu 1Ll 1Lu 1Ll 1Lu 1Ll 1Lu 1Ll 1Lu 1Ll 1Lu 1Ll 1Lu 1Ll 1Lu 1Ll",
  "1Lu 5Ll 1Lu 1Ll 1Sm 1Lu 1Ll 2Lu 2Ll 1fLu 1cLl 1Lu 1Ll 1Lu 1Ll 1Lu 1Ll 1Lu 1Ll 1Lu 1Ll 1Lu 1Ll",
  "1Lu 1Ll 1Lu 1Ll 1Lu 1Ll 1Lu 1Ll 1Lu 1Ll 1Lu 1Ll 1Lu 1Ll 1Lu 1Ll 1Lu 1Ll 1Lu 1Ll 1Lu 1Ll 1So",
  "5Mn 2Me 1Lu 1Ll 1Lu 1Ll 1Lu 1Ll 1Lu 1Ll 1Lu 1Ll 1Lu 1Ll 1Lu 1Ll 1Lu 1Ll 1Lu 1Ll 1Lu 1Ll 1Lu",
  "1Ll 1Lu 1Ll 1Lu 1Ll 1Lu 1Ll 1Lu 1Ll 1Lu 1Ll 1Lu 1Ll 1Lu 1Ll 1Lu 1Ll 1Lu 1Ll 1Lu 1Ll 1Lu 1Ll",
  "1Lu 1Ll 1Lu 1Ll 1Lu 1Ll 1Lu 1Ll 1Lu 1Ll 2Lu 1Ll 1Lu 1Ll 1Lu 1Ll 1Lu 1Ll 1Lu 1Ll 1Lu 1Ll 1Lu",
  "2Ll 1Lu 1Ll 1Lu 1Ll 1Lu 1Ll 1Lu 1Ll 1Lu 1Ll 1Lu 1Ll 1Lu 1Ll 1Lu 1Ll 1Lu 1Ll 1Lu 1Ll 1Lu 1Ll",
  "1Lu 1Ll 1Lu 1Ll 1Lu 1Ll 1Lu 1Ll 1Lu 1Ll 1Lu 1Ll 1Lu 1Ll 1Lu 1Ll 1Lu 1Ll 1Lu 1Ll 1Lu 1Ll 1Lu",
  "1Ll 1Lu 1Ll 1Lu 1Ll 1Lu 1Ll 1Lu 1Ll 1Lu 1Ll 1Lu 1Ll 1Lu 1Ll 1Lu 1Ll 1Lu 1Ll 1Lu 1Ll 1Lu 1Ll",
  "1Lu 1Ll 1Lu 1Ll 1Lu 1Ll 1Lu 1Ll 1Lu 1Ll 1Lu 1Ll 1Lu 1Ll 1Lu 1Ll 1Lu 1Ll 1Lu 1Ll 1Lu 1Ll 1Lu",
  "1Ll 1Lu 1Ll 1Lu 1Ll 1Cn 12Lu 2Cn 1Lm 6Po 15Ll 1Po 1Pd 2Cn 2So 1Sc 1Cn 19Mn 1Pd 1Mn 1Po 2Mn 1Po",
  "2Mn 1Po 1Mn 8Cn rLo 4Cn 4Lo 2Po bCn 6Cf 3Sm 2Po 1Sc 2Po 2So bMn 1Po 1Cf 3Po wLo 1Lm aLo lMn",
  "aNd 4Po 2Lo 1Mn 2rLo 1Po 1Lo 7Mn 1Cf 1So 6Mn 2Lm 2Mn 1So 4Mn 2Lo aNd 3Lo 2So 1Lo ePo 1Cn 1Cf",
  "1Lo 1Mn uLo rMn 2Cn 2hLo bMn 1Lo eCn aNd xLo 9Mn 2Lm 1So 3Po 1Lm 2Cn 1Mn 2Sc mLo 4Mn 1Lm 9Mn",
  "1Lm 3Mn 1Lm 5Mn 2Cn fPo 1Cn pLo 3Mn 2Cn 1Po 1Cn bLo 5Cn oLo 1Sk 6Lo 1Cn 2Cf 5Cn 9Mn 15Lo 1Lm",
  "oMn 1Cf wMn 1Mc 1iLo 1Mn 1Mc 1Mn 1Lo 3Mc 8Mn 4Mc 1Mn 2Mc 1Lo 7Mn aLo 2Mn 2Po aNd 1Po 1Lm fLo",
  "1Mn 2Mc 1Cn 8Lo 2Cn 2Lo 2Cn mLo 1Cn 7Lo 1Cn 1Lo 3Cn 4Lo 2Cn 1Mn 1Lo 3Mc 4Mn 2Cn 2Mc 2Cn 2Mc",
  "1Mn 1Lo 8Cn 1Mc 4Cn 2Lo 1Cn 3Lo 2Mn 2Cn aNd 2Lo 2Sc 6No 1So 1Sc 1Lo 1Po 1Mn 2Cn 2Mn 1Mc 1Cn",
  "6Lo 4Cn 2Lo 2Cn mLo 1Cn 7Lo 1Cn 2Lo 1Cn 2Lo 1Cn 2Lo 2Cn 1Mn 1Cn 3Mc 2Mn 4Cn 2Mn 2Cn 3Mn 3Cn",
  "1Mn 7Cn 4Lo 1Cn 1Lo 7Cn aNd 2Mn 3Lo 1Mn 1Po aCn 2Mn 1Mc 1Cn 9Lo 1Cn 3Lo 1Cn mLo 1Cn 7Lo 1Cn",
  "2Lo 1Cn 5Lo 2Cn 1Mn 1Lo 3Mc 5Mn 1Cn 2Mn 1Mc 1Cn 2Mc 1Mn 2Cn 1Lo fCn 2Lo 2Mn 2Cn aNd 1Po 1Sc",
  "7Cn 1Lo 6Mn 1Cn 1Mn 2Mc 1Cn 8Lo 2Cn 2Lo 2Cn mLo 1Cn 7Lo 1Cn 2Lo 1Cn 5Lo 2Cn 1Mn 1Lo 1Mc 1Mn",
  "1Mc 4Mn 2Cn 2Mc 2Cn 2Mc 1Mn 7Cn 2Mn 1Mc 4Cn 2Lo 1Cn 3Lo 2Mn 2Cn aNd 1So 1Lo 6No aCn 1Mn 1Lo",
  "1Cn 6Lo 3Cn 3Lo 1Cn 4Lo 3Cn 2Lo 1Cn 1Lo 1Cn 2Lo 3Cn 2Lo 3Cn 3Lo 3Cn cLo 4Cn 2Mc 1Mn 2Mc 3Cn",
  "3Mc 1Cn 3Mc 1Mn 2Cn 1Lo 6Cn 1Mc eCn aNd 3No 6So 1Sc 1So 5Cn 1Mn 3Mc 1Mn 8Lo 1Cn 3Lo 1Cn nLo",
  "1Cn gLo 2Cn 1Mn 1Lo 3Mn 4Mc 1Cn 3Mn 1Cn 4Mn 7Cn 2Mn 1Cn 3Lo 2Cn 1Lo 2Cn 2Lo 2Mn 2Cn aNd 7Cn",
  "1Po 7No 1So 1Lo 1Mn 2Mc 1Po 8Lo 1Cn 3Lo 1Cn nLo 1Cn aLo 1Cn 5Lo 2Cn 1Mn 1Lo 1Mc 1Mn 5Mc 1Cn",
  "1Mn 2Mc 1Cn 2Mc 2Mn 7Cn 2Mc 6Cn 2Lo 1Cn 2Lo 2Mn 2Cn aNd 1Cn 2Lo 1Mc cCn 2Mn 2Mc 9Lo 1Cn 3Lo",
  "1Cn 15Lo 2Mn 1Lo 3Mc 4Mn 1Cn 3Mc 1Cn 3Mc 1Mn 1Lo 1So 4Cn 3Lo 1Mc 7No 3Lo 2Mn 2Cn aNd 9No 1So",
  "6Lo 1Cn 1Mn 2Mc 1Cn iLo 3Cn oLo 1Cn 9Lo 1Cn 1Lo 2Cn 7Lo 3Cn 1Mn 4Cn 3Mc 3Mn 1Cn 1Mn 1Cn 8Mc",
  "6Cn aNd 2Cn 2Mc 1Po cCn 1cLo 1Mn 2Lo 7Mn 4Cn 1Sc 6Lo 1Lm 8Mn 1Po aNd 2Po 11Cn 2Lo 1Cn 1Lo 1Cn",
  "5Lo 1Cn oLo 1Cn 1Lo 1Cn aLo 1Mn 2Lo 9Mn 1Lo 2Cn 5Lo 1Cn 1Lm 1Cn 7Mn 1Cn aNd 2Cn 4Lo wCn 1Lo",
  "3So fPo 1So 1Po 3So 2Mn 6So aNd aNo 1So 1Mn 1So 1Mn 1So 1Mn 1Ps 1Pe 1Ps 1Pe 2Mc 8Lo 1Cn 10Lo",
  "4Cn eMn 1Mc 5Mn 1Po 2Mn 5Lo bMn 1Cn 10Mn 1Cn 8So 1Mn 6So 1Cn 2So 5Po 4So 2Po 11Cn 17Lo 2Mc 4Mn",
  "1Mc 6Mn 1Mc 2Mn 2Mc 2Mn 1Lo aNd 6Po 6Lo 2Mc 2Mn 4Lo 3Mn 1Lo 3Mc 2Lo 7Mc 3Lo 4Mn dLo 1Mn 2Mc",
  "2Mn 6Mc 1Mn 1Lo 1Mc aNd 3Mc 1Mn 2So 12Lu 1Cn 1Lu 5Cn 1Lu 2Cn 17Ll 1Po 1Lm 3Ll 95Lo 1Cn 4Lo 2Cn",
  "7Lo 1Cn 1Lo 1Cn 4Lo 2Cn 15Lo 1Cn 4Lo 2Cn xLo 1Cn 4Lo 2Cn 7Lo 1Cn 1Lo 1Cn 4Lo 2Cn fLo 1Cn 1lLo",
  "1Cn 4Lo 2Cn 1vLo 2Cn 3Mn 9Po kNo 3Cn gLo aSo 6Cn 2eLu 2Cn 6Ll 2Cn 1Pd h8Lo 1So 1Po hLo 1Zs qLo",
  "1Ps 1Pe 3Cn 23Lo 3Po 3Nl 8Lo 7Cn iLo 3Mn 1Mc 9Cn jLo 2Mn 1Mc 2Po 9Cn iLo 2Mn cCn dLo 1Cn 3Lo",
  "1Cn 2Mn cCn 1gLo 2Mn 1Mc 7Mn 8Mc 1Mn 2Mc bMn 3Po 1Lm 3Po 1Sc 1Lo 1Mn 2Cn aNd 6Cn aNo 6Cn 6Po",
  "1Pd 4Po 3Mn 1Cf 1Mn aNd 6Cn zLo 1Lm 1hLo 7Cn 5Lo 2Mn yLo 1Mn 1Lo 5Cn 1yLo aCn vLo 1Cn 3Mn 4Mc",
  "2Mn 3Mc 4Cn 2Mc 1Mn 6Mc 3Mn 4Cn 1So 3Cn 2Po aNd uLo 2Cn 5Lo bCn 18Lo 4Cn qLo 6Cn aNd 1No 3Cn",
  "ySo nLo 2Mn 2Mc 1Mn 2Cn 2Po 1hLo 1Mc 1Mn 1Mc 7Mn 1Cn 1Mn 1Mc 1Mn 2Mc 8Mn 6Mc aMn 2Cn 1Mn aNd",
  "6Cn aNd 6Cn 7Po 1Lm 6Po 2Cn eMn 1Me gMn 1dCn 4Mn 1Mc 1bLo 1Mn 1Mc 5Mn 1Mc 1Mn 5Mc 1Mn 2Mc 8Lo",
  "1Cn 2Po aNd 7Po aSo 9Mn 9So 3Po 2Mn 1Mc uLo 1Mc 4Mn 2Mc 2Mn 1Mc 3Mn 2Lo aNd 18Lo 1Mn 1Mc 2Mn",
  "3Mc 1Mn 1Mc 3Mn 2Mc 8Cn 4Po 10Lo 8Mc 8Mn 2Mc 2Mn 3Cn 5Po aNd 3Cn 3Lo aNd uLo 6Lm 2Po 9Ll 1Lu",
  "1Ll 5Cn 17Lu 2Cn 3Lu 8Po 8Cn 3Mn 1Po dMn 1Mc 7Mn 4Lo 1Mn 6Lo 1Mn 2Lo 1Mc 2Mn 1Lo 5Cn 18Ll 1rLm",
  "dLl 1Lm yLl 11Lm 1sMn 1Lu 1Ll 1Lu 1Ll 1Lu 1Ll 1Lu 1Ll 1Lu 1Ll 1Lu 1Ll 1Lu 1Ll 1Lu 1Ll 1Lu 1Ll",
  "1Lu 1Ll 1Lu 1Ll 1Lu 1Ll 1Lu 1Ll 1Lu 1Ll 1Lu 1Ll 1Lu 1Ll 1Lu 1Ll 1Lu 1Ll 1Lu 1Ll 1Lu 1Ll 1Lu",
  "1Ll 1Lu 1Ll 1Lu 1Ll 1Lu 1Ll 1Lu 1Ll 1Lu 1Ll 1Lu 1Ll 1Lu 1Ll 1Lu 1Ll 1Lu 1Ll 1Lu 1Ll 1Lu 1Ll",
  "1Lu 1Ll 1Lu 1Ll 1Lu 1Ll 1Lu 1Ll 1Lu 1Ll 1Lu 1Ll 1Lu 1Ll 1Lu 1Ll 1Lu 1Ll 1Lu 1Ll 1Lu 1Ll 1Lu",
  "1Ll 1Lu 1Ll 1Lu 1Ll 1Lu 1Ll 1Lu 1Ll 1Lu 1Ll 1Lu 1Ll 1Lu 1Ll 1Lu 1Ll 1Lu 1Ll 1Lu 1Ll 1Lu 1Ll",
  "1Lu 1Ll 1Lu 1Ll 1Lu 1Ll 1Lu 1Ll 1Lu 1Ll 1Lu 1Ll 1Lu 1Ll 1Lu 1Ll 1Lu 1Ll 1Lu 1Ll 1Lu 1Ll 1Lu",
  "1Ll 1Lu 1Ll 1Lu 1Ll 1Lu 1Ll 1Lu 1Ll 1Lu 1Ll 1Lu 1Ll 1Lu 1Ll 1Lu 9Ll 1Lu 1Ll 1Lu 1Ll 1Lu 1Ll",
  "1Lu 1Ll 1Lu 1Ll 1Lu 1Ll 1Lu 1Ll 1Lu 1Ll 1Lu 1Ll 1Lu 1Ll 1Lu 1Ll 1Lu 1Ll 1Lu 1Ll 1Lu 1Ll 1Lu",
  "1Ll 1Lu 1Ll 1Lu 1Ll 1Lu 1Ll 1Lu 1Ll 1Lu 1Ll 1Lu 1Ll 1Lu 1Ll 1Lu 1Ll 1Lu 1Ll 1Lu 1Ll 1Lu 1Ll",
  "1Lu 1Ll 1Lu 1Ll 1Lu 1Ll 1Lu 1Ll 1Lu 1Ll 1Lu 1Ll 1Lu 1Ll 1Lu 1Ll 1Lu 1Ll 1Lu 1Ll 1Lu 1Ll 1Lu",
  "1Ll 1Lu 1Ll 1Lu 1Ll 1Lu 1Ll 1Lu 1Ll 1Lu 1Ll 1Lu 1Ll 1Lu 1Ll 1Lu 1Ll 1Lu 1Ll 1Lu 1Ll 1Lu 9Ll",
  "8Lu 6Ll 2Cn 6Lu 2Cn 8Ll 8Lu 8Ll 8Lu 6Ll 2Cn 6Lu 2Cn 8Ll 1Cn 1Lu 1Cn 1Lu 1Cn 1Lu 1Cn 1Lu 8Ll",
  "8Lu eLl 2Cn 8Ll 8Lt 8Ll 8Lt 8Ll 8Lt 5Ll 1Cn 2Ll 4Lu 1Lt 1Sk 1Ll 3Sk 3Ll 1Cn 2Ll 4Lu 1Lt 3Sk",
  "4Ll 2Cn 2Ll 4Lu 1Cn 3Sk 8Ll 5Lu 3Sk 2Cn 3Ll 1Cn 2Ll 4Lu 1Lt 2Sk 1Cn bZs 5Cf 6Pd 2Po 1Pi 1Pf",
  "1Ps 2Pi 1Pf 1Ps 1Pi 8Po 1Zl 1Zp 5Cf 1Zs 9Po 1Pi 1Pf 4Po 2Pc 3Po 1Sm 1Ps 1Pe bPo 1Sm 1Po 1Pc",
  "aPo 1Zs 5Cf 1Cn aCf 1No 1Lm 2Cn 6No 3Sm 1Ps 1Pe 1Lm aNo 3Sm 1Ps 1Pe 1Cn dLm 3Cn xSc fCn dMn",
  "4Me 1Mn 3Me cMn fCn 2So 1Lu 4So 1Lu 2So 1Ll 3Lu 2Ll 3Lu 1Ll 1So 1Lu 2So 1Sm 5Lu 6So 1Lu 1So",
  "1Lu 1So 1Lu 1So 4Lu 1So 1Ll 4Lu 1Ll 4Lo 1Ll 2So 2Ll 2Lu 5Sm 1Lu 4Ll 1So 1Sm 2So 1Ll 1So gNo",
  "zNl 1Lu 1Ll 4Nl 1No 2So 4Cn 5Sm 5So 2Sm 4So 1Sm 2So 1Sm 2So 1Sm 7So 1Sm vSo 2Sm 2So 1Sm 1So",
  "1Sm vSo 7gSm 8So 1Ps 1Pe 1Ps 1Pe kSo 2Sm 7So 1Ps 1Pe 29So 1Sm uSo pSm 14So 6Sm 20So mCn bSo",
  "lCn 1oNo 26So mNo 53So 1Sm 9So 1Sm 1iSo 8Sm 33So 1Sm 6wSo 1Ps 1Pe 1Ps 1Pe 1Ps 1Pe 1Ps 1Pe 1Ps",
  "1Pe 1Ps 1Pe 1Ps 1Pe uNo 18So 5Sm 1Ps 1Pe vSm 1Ps 1Pe 1Ps 1Pe 1Ps 1Pe 1Ps 1Pe 1Ps 1Pe gSm 74So",
  "3nSm 1Ps 1Pe 1Ps 1Pe 1Ps 1Pe 1Ps 1Pe 1Ps 1Pe 1Ps 1Pe 1Ps 1Pe 1Ps 1Pe 1Ps 1Pe 1Ps 1Pe 1Ps 1Pe",
  "1rSm 1Ps 1Pe 1Ps 1Pe wSm 1Ps 1Pe 76Sm 1cSo lSm 2So 6Sm 13So 2Cn wSo 1Cn 2xSo 1cLu 1cLl 1Lu 1Ll",
  "3Lu 2Ll 1Lu 1Ll 1Lu 1Ll 1Lu 1Ll 4Lu 1Ll 1Lu 2Ll 1Lu 6Ll 2Lm 3Lu 1Ll 1Lu 1Ll 1Lu 1Ll 1Lu 1Ll",
  "1Lu 1Ll 1Lu 1Ll 1Lu 1Ll 1Lu 1Ll 1Lu 1Ll 1Lu 1Ll 1Lu 1Ll 1Lu 1Ll 1Lu 1Ll 1Lu 1Ll 1Lu 1Ll 1Lu",
  "1Ll 1Lu 1Ll 1Lu 1Ll 1Lu 1Ll 1Lu 1Ll 1Lu 1Ll 1Lu 1Ll 1Lu 1Ll 1Lu 1Ll 1Lu 1Ll 1Lu 1Ll 1Lu 1Ll",
  "1Lu 1Ll 1Lu 1Ll 1Lu 1Ll 1Lu 1Ll 1Lu 1Ll 1Lu 1Ll 1Lu 1Ll 1Lu 1Ll 1Lu 1Ll 1Lu 1Ll 1Lu 1Ll 1Lu",
  "1Ll 1Lu 1Ll 1Lu 1Ll 1Lu 1Ll 1Lu 1Ll 1Lu 1Ll 1Lu 1Ll 1Lu 1Ll 1Lu 1Ll 1Lu 1Ll 1Lu 1Ll 1Lu 2Ll",
  "6So 1Lu 1Ll 1Lu 1Ll 3Mn 1Lu 1Ll 5Cn 4Po 1No 2Po 12Ll 1Cn 1Ll 5Cn 1Ll 2Cn 1kLo 7Cn 1Lm 1Po eCn",
  "1Mn nLo 9Cn 7Lo 1Cn 7Lo 1Cn 7Lo 1Cn 7Lo 1Cn 7Lo 1Cn 7Lo 1Cn 7Lo 1Cn 7Lo 1Cn wMn 2Po 1Pi 1Pf",
  "1Pi 1Pf 3Po 1Pi 1Pf 1Po 1Pi 1Pf 9Po 1Pd 2Po 1Pd 1Po 1Pi 1Pf 2Po 1Pi 1Pf 1Ps 1Pe 1Ps 1Pe 1Ps",
  "1Pe 1Ps 1Pe 5Po 1Lm aPo 2Pd 4Po 1Pd 1Po 1Ps dPo 2So 3Po 1Ps 1Pe 1Ps 1Pe 1Ps 1Pe 1Ps 1Pe 1Pd",
  "yCn qSo 1Cn 2hSo cCn 5ySo qCn gSo 1Zs 3Po 1So 1Lm 1Lo 1Nl 1Ps 1Pe 1Ps 1Pe 1Ps 1Pe 1Ps 1Pe 1Ps",
  "1Pe 2So 1Ps 1Pe 1Ps 1Pe 1Ps 1Pe 1Ps 1Pe 1Pd 1Ps 2Pe 1So 9Nl 4Mn 2Mc 1Pd 5Lm 2So 3Nl 1Lm 1Lo",
  "1Po 2So 1Cn 2eLo 2Cn 2Mn 2Sk 2Lm 1Lo 1Pd 2iLo 1Po 3Lm 1Lo 5Cn 17Lo 1Cn 2mLo 1Cn 2So 4No aSo",
  "wLo 12So 9Cn 1So gLo vSo 1Cn aNo uSo 8No 1So fNo wSo aNo 13So fNo 8wSo 534Lo 1sSo g7pLo 1Lm",
  "vrLo 3Cn 1jSo 9Cn 14Lo 6Lm 2Po 7gLo 1Lm 3Po gLo aNd 2Lo kCn 1Lu 1Ll 1Lu 1Ll 1Lu 1Ll 1Lu 1Ll",
  "1Lu 1Ll 1Lu 1Ll 1Lu 1Ll 1Lu 1Ll 1Lu 1Ll 1Lu 1Ll 1Lu 1Ll 1Lu 1Ll 1Lu 1Ll 1Lu 1Ll 1Lu 1Ll 1Lu",
  "1Ll 1Lu 1Ll 1Lu 1Ll 1Lu 1Ll 1Lu 1Ll 1Lu 1Ll 1Lu 1Ll 1Lu 1Ll 1Lo 1Mn 3Me 1Po aMn 1Po 1Lm 1Lu",
  "1Ll 1Lu 1Ll 1Lu 1Ll 1Lu 1Ll 1Lu 1Ll 1Lu 1Ll 1Lu 1Ll 1Lu 1Ll 1Lu 1Ll 1Lu 1Ll 1Lu 1Ll 1Lu 1Ll",
  "1Lu 1Ll 1Lu 1Ll 2Lm 2Mn 1yLo aNl 2Mn 6Po 8Cn nSk 9Lm 2Sk 1Lu 1Ll 1Lu 1Ll 1Lu 1Ll 1Lu 1Ll 1Lu",
  "1Ll 1Lu 1Ll 1Lu 3Ll 1Lu 1Ll 1Lu 1Ll 1Lu 1Ll 1Lu 1Ll 1Lu 1Ll 1Lu 1Ll 1Lu 1Ll 1Lu 1Ll 1Lu 1Ll",
  "1Lu 1Ll 1Lu 1Ll 1Lu 1Ll 1Lu 1Ll 1Lu 1Ll 1Lu 1Ll 1Lu 1Ll 1Lu 1Ll 1Lu 1Ll 1Lu 1Ll 1Lu 1Ll 1Lu",
  "1Ll 1Lu 1Ll 1Lu 1Ll 1Lu 1Ll 1Lu 1Ll 1Lu 1Ll 1Lu 1Ll 1Lu 1Ll 1Lu 1Ll 1Lu 1Ll 1Lu 1Ll 1Lm 8Ll",
  "1Lu 1Ll 1Lu 1Ll 2Lu 1Ll 1Lu 1Ll 1Lu 1Ll 1Lu 1Ll 1Lu 1Ll 1Lm 2Sk 1Lu 1Ll 1Lu 1Ll 1Lo 1Lu 1Ll",
  "1Lu 3Ll 1Lu 1Ll 1Lu 1Ll 1Lu 1Ll 1Lu 1Ll 1Lu 1Ll 1Lu 1Ll 1Lu 1Ll 1Lu 1Ll 1Lu 1Ll 1Lu 1Ll 5Lu",
  "1Ll 5Lu 1Ll 1Lu 1Ll 1Lu 1Ll 1Lu 1Ll 1Lu 1Ll 1Lu 1Ll 1Lu 1Ll 1Lu 1Ll 4Lu 1Ll 1Lu 1Ll 2Lu 1Ll",
  "2Cn 1Lu 1Ll 1Cn 1Ll 1Cn 1Ll 1Lu 1Ll 1Lu 1Ll 1Lu 1Ll 1Lu lCn 3Lm 1Lu 1Ll 1Lo 2Lm 1Ll 7Lo 1Mn",
  "3Lo 1Mn 4Lo 1Mn nLo 2Mc 2Mn 1Mc 4So 1Mn 3Cn 6No 2So 1Sc 1So 6Cn 1gLo 4Po 8Cn 2Mc 1eLo gMc 2Mn",
  "8Cn 2Po aNd 6Cn iMn 6Lo 3Po 1Lo 1Po 2Lo 1Mn aNd sLo 8Mn 2Po nLo bMn 2Mc bCn 1Po tLo 3Cn 3Mn",
  "1Mc 1bLo 1Mn 2Mc 4Mn 2Mc 2Mn 3Mc dPo 1Cn 1Lm aNd 4Cn 2Po 5Lo 1Mn 1Lm 9Lo aNd 5Lo 1Cn 15Lo 6Mn",
  "2Mc 2Mn 2Mc 2Mn 9Cn 3Lo 1Mn 8Lo 1Mn 1Mc 2Cn aNd 2Cn 4Po gLo 1Lm 6Lo 3So 1Lo 1Mc 1Mn 1Mc 1eLo",
  "1Mn 1Lo 3Mn 2Lo 2Mn 5Lo 2Mn 1Lo 1Mn 1Lo oCn 2Lo 1Lm 2Po bLo 1Mc 2Mn 2Mc 2Po 1Lo 2Lm 1Mc 1Mn",
  "aCn 6Lo 2Cn 6Lo 2Cn 6Lo 9Cn 7Lo 1Cn 7Lo 1Cn 17Ll 1Sk 4Lm 9Ll 1Lm 2Sk 4Cn 28Ll zLo 2Mc 1Mn 2Mc",
  "1Mn 2Mc 1Po 1Mc 1Mn 2Cn aNd 6Cn 8mcLo cCn nLo 4Cn 1dLo 4Cn 1kwCs 4xsCo a6Lo 2Cn 2yLo 12Cn 7Ll",
  "cCn 5Ll 5Cn 1Lo 1Mn aLo 1Sm dLo 1Cn 5Lo 1Cn 1Lo 1Cn 2Lo 1Cn 2Lo 1Cn 30Lo hSk gCn a3Lo 1Pe 1Ps",
  "gSo 1sLo 2Cn 1iLo 7Cn 1So wCn cLo 1Sc 3So gMn 7Po 1Ps 1Pe 1Po 6Cn gMn 1Po 2Pd 2Pc 1Ps 1Pe 1Ps",
  "1Pe 1Ps 1Pe 1Ps 1Pe 1Ps 1Pe 1Ps 1Pe 1Ps 1Pe 1Ps 1Pe 2Po 1Ps 1Pe 4Po 3Pc 3Po 1Cn 4Po 1Pd 1Ps",
  "1Pe 1Ps 1Pe 1Ps 1Pe 3Po 1Sm 1Pd 3Sm 1Cn 1Po 1Sc 2Po 4Cn 5Lo 1Cn 3rLo 2Cn 1Cf 1Cn 3Po 1Sc 3Po",
  "1Ps 1Pe 1Po 1Sm 1Po 1Pd 2Po aNd 2Po 3Sm 2Po qLu 1Ps 1Po 1Pe 1Sk 1Pc 1Sk qLl 1Ps 1Sm 1Pe 1Sm",
  "1Ps 1Pe 1Po 1Ps 1Pe 2Po aLo 1Lm 19Lo 2Lm vLo 3Cn 6Lo 2Cn 6Lo 2Cn 6Lo 2Cn 3Lo 3Cn 2Sc 1Sm 1Sk",
  "1So 2Sc 1Cn 1So 4Sm 2So aCn 3Cf 2So 2Cn cLo 1Cn qLo 1Cn jLo 1Cn 2Lo 1Cn fLo 2Cn eLo yCn 3fLo",
  "5Cn 3Po 4Cn 19No 3Cn 9So 1hNl 4No hSo 2No 3So 1Cn dSo 3Cn 1So 1bCn 19So 1Mn 3mCn tLo 3Cn 1dLo",
  "fCn 1Mn rNo 4Cn wLo 4No 9Cn kLo 1Nl 8Lo 1Nl 5Cn 12Lo 5Mn 5Cn uLo 1Cn 1Po 10Lo 4Cn 8Lo 1Po 5Nl",
  "16Cn 14Lu 14Ll 26Lo 2Cn aNd 6Cn 10Lu 4Cn 10Ll 4Cn 14Lo 8Cn 1gLo bCn 1Po bLu 1Cn fLu 1Cn 7Lu",
  "1Cn 2Lu 1Cn bLl 1Cn fLl 1Cn 7Ll 1Cn 2Ll 3Cn 1gLo cCn 8nLo 9Cn mLo aCn 8Lo oCn 6Lm 1Cn 16Lm 1Cn",
  "9Lm 1xCn 6Lo 2Cn 1Lo 1Cn 18Lo 1Cn 2Lo 3Cn 1Lo 2Cn nLo 1Cn 1Po 8No nLo 2So 7No vLo 8Cn 9No 1cCn",
  "jLo 1Cn 2Lo 5Cn 5No mLo 6No 3Cn 1Po qLo 5Cn 1Po 1sCn 1kLo 4Cn 2No 2Lo gNo 2Cn 1aNo 1Lo 3Mn 1Cn",
  "2Mn 5Cn 4Mn 4Lo 1Cn 3Lo 1Cn tLo 2Cn 3Mn 4Cn 1Mn 9No 7Cn 9Po 7Cn tLo 2No 1Po tLo 3No wCn 8Lo",
  "1So sLo 2Mn 4Cn 5No 7Po 9Cn 1iLo 3Cn 7Po mLo 2Cn 8No jLo 5Cn 8No iLo 7Cn 4Po cCn 7No 28Cn 21Lo",
  "1jCn 1fLu dCn 1fLl 7Cn 6No 10Lo 4Mn 8Cn aNd 6Cn aNd 4Lo 1Lm 1Lo mLu 3Cn 5Mn 1Pd 1Lm mLl 8Cn",
  "2Sm 5sCn vNo 1Cn 16Lo 1Cn 2Mn 1Pd 2Cn 2Lo gCn 3Lo 1jCn 4Mn tLo aNo 1Lo 8Cn mLo bMn 4No 5Po mCn",
  "iLo 4Mn 4Po 12Cn lLo 7No kCn nLo 9Cn 1Mc 1Mn 1Mc 1hLo fMn 7Po 4Cn kNo aNd 1Mn 2Lo 2Mn 1Lo 9Cn",
  "3Mn 1Mc 19Lo 3Mc 4Mn 2Mc 2Mn 2Po 1Cf 4Po 1Mn aCn 1Cf 2Cn pLo 7Cn aNd 6Cn 3Mn 10Lo 5Mn 1Mc 8Mn",
  "1Cn aNd 4Po 1Lo 2Mc 1Lo 8Cn zLo 1Mn 2Po 1Lo 9Cn 2Mn 1Mc 1cLo 3Mc 9Mn 2Mc 4Lo 4Po 4Mn 1Po 1Mc",
  "1Mn aNd 1Lo 1Po 1Lo 3Po 1Cn kNo bCn iLo 1Cn pLo 3Mc 3Mn 2Mc 1Mn 1Mc 2Mn 6Po 1Mn 2Lo 1Mn 1qCn",
  "7Lo 1Cn 1Lo 1Cn 4Lo 1Cn fLo 1Cn aLo 1Po 6Cn 1bLo 1Mn 3Mc 8Mn 5Cn aNd 6Cn 2Mn 2Mc 1Cn 8Lo 2Cn",
  "2Lo 2Cn mLo 1Cn 7Lo 1Cn 2Lo 1Cn 5Lo 1Cn 2Mn 1Lo 2Mc 1Mn 4Mc 2Cn 2Mc 2Cn 3Mc 2Cn 1Lo 6Cn 1Mc",
  "5Cn 5Lo 2Mc 2Cn 7Mn 3Cn 5Mn bCn aLo 1Cn 1Lo 2Cn 1Lo 1Cn 12Lo 1Cn 1Lo 3Mc 6Mn 1Cn 1Mc 2Cn 1Mc",
  "1Cn 4Mc 1Cn 2Mc 1Mn 1Mc 1Mn 1Lo 1Mn 1Lo 2Po 1Cn 2Po 8Cn 2Mn tCn 1hLo 3Mc 8Mn 2Mc 3Mn 1Mc 1Mn",
  "4Lo 5Po aNd 2Po 1Cn 1Po 1Mn 3Lo uCn 1cLo 3Mc 6Mn 1Mc 1Mn 4Mc 2Mn 1Mc 2Mn 2Lo 1Po 1Lo 8Cn aNd",
  "4mCn 1bLo 3Mc 4Mn 2Cn 4Mc 2Mn 1Mc 2Mn nPo 4Lo 2Mn yCn 1cLo 3Mc 8Mn 2Mc 1Mn 1Mc 2Mn 3Po 1Lo bCn",
  "aNd 6Cn dPo jCn 17Lo 1Mn 1Mc 1Mn 2Mc 6Mn 1Mc 1Mn 1Lo 1Po 6Cn aNd 6Cn kNd sCn rLo 2Cn 1Mn 1Mc",
  "1Mn 2Mc 4Mn 1Mc 5Mn 4Cn aNd 2No 3Po 1So 7Lo 55Cn 18Lo 3Mc 9Mn 1Mc 2Mn 1Po 2sCn wLu wLl aNd 9No",
  "cCn 8Lo 2Cn 1Lo 2Cn 8Lo 1Cn 2Lo 1Cn oLo 6Mc 1Cn 2Mc 2Cn 2Mn 1Mc 1Mn 1Lo 1Mc 1Lo 1Mc 1Mn 3Po",
  "9Cn aNd 1yCn 8Lo 2Cn 13Lo 3Mc 4Mn 2Cn 2Mn 4Mc 1Mn 1Lo 1Po 1Lo 1Mc rCn 1Lo aMn 14Lo 6Mn 1Mc 1Lo",
  "4Mn 8Po 1Mn 8Cn 1Lo 6Mn 2Mc 3Mn 1aLo dMn 1Mc 2Mn 3Po 1Lo 5Po dCn 21Lo 7Cn aPo 52Cn xLo 1Po eCn",
  "aNd 6Cn 9Lo 1Cn 11Lo 1Mc 7Mn 1Cn 6Mn 1Mc 1Mn 1Lo 5Po aCn aNd jNo 3Cn 2Po uLo 2Cn mMn 1Cn 1Mc",
  "7Mn 1Mc 2Mn 1Mc 2Mn 21Cn 7Lo 1Cn 2Lo 1Cn 12Lo 6Mn 3Cn 1Mn 1Cn 2Mn 1Cn 7Mn 1Lo 1Mn 8Cn aNd 6Cn",
  "6Lo 1Cn 2Lo 1Cn wLo 5Mc 1Cn 2Mn 1Cn 2Mc 1Mn 1Mc 1Mn 1Lo 7Cn aNd 8mCn jLo 2Mn 2Mc 2Po 7Cn 2Mn",
  "1Lo 1Mc dLo 1Cn yLo 2Mc 5Mn 3Cn 2Mc 1Mn 1Mc 1Mn dPo aNd 1Mn 2dCn 1Lo fCn lNo 8So 4Sc hSo dCn",
  "1Po pmLo 2uCn 33Nl 1Cn 5Po bCn 5gLo 218Cn 2pLo 2Po dCn tsLo gCf 1Mn 6Lo fMn aCn 32zLo 5Cn g7Lo",
  "5a1Cn uLo cMn 3Mc 3Mn aNd 1c6Cn ftLo 7Cn vLo 1Cn aNd 4Cn 2Po 27Lo 1Cn aNd 6Cn uLo 2Cn 5Mn 1Po",
  "aCn 1cLo 7Mn 5Po 4So 4Lm 1Po 1So aCn aNd 1Cn 7No 1Cn lLo 5Cn jLo c0Cn 3Lm 14Lo 2Lm 3Po aNd",
  "5iCn wLu wLl nNo 4Po 2tCn 23Lo 4Cn 1Mn 1Lo 1jMc 7Cn 4Mn dLm 1sCn 2Lm 1Po 1Lm 1Mn bCn 2Mc eCn",
  "4qgLo 8Cn yeLo 15Cn aLo 6w7Cn 4Lm 1Cn 7Lm 1Cn 2Lm 1Cn 83Lo fCn 1Lo tCn 3Lo 2Cn 1Lo eCn 4Lo 8Cn",
  "b0Lo 1s4Cn 2zLo 5Cn dLo 3Cn 9Lo 7Cn aLo 2Cn 1So 2Mn 1Po 4Cf 318Cn 6oSo aNd 6Cn c4So 24Cn 1aMn",
  "2Cn nMn 9Cn 38So 1oCn 6uSo aCn 13So 2Cn 1oSo 2Mc 3Mn 3So 6Mc 8Cf 8Mn 2So 7Mn uSo 4Mn 1pSo lCn",
  "1uSo 3Mn 1So 3eCn kNo cCn kNo cCn 2fSo 9Cn pNo 3rCn qLu qLl qLu 7Ll 1Cn iLl qLu qLl 1Lu 1Cn",
  "2Lu 2Cn 1Lu 2Cn 2Lu 2Cn 4Lu 1Cn 8Lu 4Ll 1Cn 1Ll 1Cn 7Ll 1Cn bLl qLu qLl 2Lu 1Cn 4Lu 2Cn 8Lu",
  "1Cn 7Lu 1Cn qLl 2Lu 1Cn 4Lu 1Cn 5Lu 1Cn 1Lu 3Cn 7Lu 1Cn qLl qLu qLl qLu qLl qLu qLl qLu qLl",
  "qLu qLl qLu sLl 2Cn pLu 1Sm pLl 1Sm 6Ll pLu 1Sm pLl 1Sm 6Ll pLu 1Sm pLl 1Sm 6Ll pLu 1Sm pLl",
  "1Sm 6Ll pLu 1Sm pLl 1Sm 6Ll 1Lu 1Ll 2Cn 1eNd e8So 1jMn 4So 1eMn 8So 1Mn eSo 1Mn 2So 5Po fCn",
  "5Mn 1Cn fMn uoCn aLl 1Lo kLl 6Cn 6Ll 5xCn 7Mn 1Cn hMn 2Cn 7Mn 1Cn 2Mn 1Cn 5Mn 5Cn 1qLm xCn 1Mn",
  "34Cn 19Lo 3Cn 7Mn 7Lm 2Cn aNd 4Cn 1Lo 1So 8wCn uLo 1Mn hCn 18Lo 4Mn aNd 5Cn 1Sc cwCn rLo 1Lm",
  "4Mn aNd 5yCn uLo 2Mn 1Lo aNd 4Cn 1Po dcCn 7Lo 1Cn 4Lo 1Cn 2Lo 1Cn fLo 1Cn 5hLo 2Cn 9No 7Mn",
  "15Cn yLu yLl 7Mn 1Lm 4Cn aNd 4Cn 2Po ltCn 1nNo 1So 3No 1Sc 4No 24Cn 19No 1So fNo 5eCn 4Lo 1Cn",
  "rLo 1Cn 2Lo 1Cn 1Lo 2Cn 1Lo 1Cn aLo 1Cn 4Lo 1Cn 1Lo 1Cn 1Lo 6Cn 1Lo 4Cn 1Lo 1Cn 1Lo 1Cn 1Lo",
  "1Cn 3Lo 1Cn 2Lo 1Cn 1Lo 2Cn 1Lo 1Cn 1Lo 1Cn 1Lo 1Cn 1Lo 1Cn 1Lo 1Cn 2Lo 1Cn 1Lo 2Cn 4Lo 1Cn",
  "7Lo 1Cn 4Lo 1Cn 4Lo 1Cn 1Lo 1Cn aLo 1Cn hLo 5Cn 3Lo 1Cn 5Lo 1Cn hLo 1gCn 2Sm 7iCn 18So 4Cn",
  "2sSo cCn fSo 2Cn fSo 1Cn fSo 1Cn 11So aCn dNo 4hSo 1kCn tSo dCn 18So 4Cn 9So 7Cn 2So eCn 6So",
  "4aCn 6zSo 5Sk k8So 4Cn hSo 3Cn dSo 3Cn 3bSo 4Cn 2nSo 6Cn cSo 4Cn 1So fCn cSo 4Cn 1kSo 8Cn aSo",
  "6Cn 14So 8Cn uSo 2Cn cSo 4Cn 2So 1qCn 9gSo cCn eSo 2Cn dSo 3Cn aSo 5Cn 1kSo 7Cn fSo 2Cn bSo",
  "6Cn 9So 7Cn 43So 1Cn 2kSo aNd smCn wyoLo wCn 37eLo 6Cn 66Lo 2Cn 4g2Lo eCn 5rlLo fCn haLo 1wiCn",
  "f2Lo 15uCn 3t7Lo 5Cn 38gLo f975Cn 1Cf uCn 2oCf 3kCn 6oMn 1e6oCn 1ekeCo 2Cn 1ekeCo 2Cn"]

/-- The general category of a character. -/
def categoryOf (c : Char) : String := (categoryRuns.at? c.toNat).getD "Cn"

/-- The normalized names of the categories and their groups, with the letters that their
categories start with. -/
def categoryNames : List (List String × List String) := [
  (["c", "other"], ["Cc", "Cf", "Cn", "Co"]),
  (["cc", "cntrl", "control"], ["Cc"]),
  (["cf", "format"], ["Cf"]),
  (["cn", "unassigned"], ["Cn"]),
  (["co", "privateuse"], ["Co"]),
  (["l", "letter"], ["Ll", "Lm", "Lo", "Lt", "Lu"]),
  (["lc", "casedletter"], ["Ll", "Lt", "Lu"]),
  (["ll", "lowercaseletter"], ["Ll"]),
  (["lm", "modifierletter"], ["Lm"]),
  (["lo", "otherletter"], ["Lo"]),
  (["lt", "titlecaseletter"], ["Lt"]),
  (["lu", "uppercaseletter"], ["Lu"]),
  (["m", "combiningmark", "mark"], ["Mc", "Me", "Mn"]),
  (["mc", "spacingmark"], ["Mc"]),
  (["me", "enclosingmark"], ["Me"]),
  (["mn", "nonspacingmark"], ["Mn"]),
  (["n", "number"], ["Nd", "Nl", "No"]),
  (["nd", "decimalnumber", "digit"], ["Nd"]),
  (["nl", "letternumber"], ["Nl"]),
  (["no", "othernumber"], ["No"]),
  (["p", "punct", "punctuation"], ["Pc", "Pd", "Pe", "Pf", "Pi", "Po", "Ps"]),
  (["pc", "connectorpunctuation"], ["Pc"]),
  (["pd", "dashpunctuation"], ["Pd"]),
  (["pe", "closepunctuation"], ["Pe"]),
  (["pf", "finalpunctuation"], ["Pf"]),
  (["pi", "initialpunctuation"], ["Pi"]),
  (["po", "otherpunctuation"], ["Po"]),
  (["ps", "openpunctuation"], ["Ps"]),
  (["s", "symbol"], ["Sc", "Sk", "Sm", "So"]),
  (["sc", "currencysymbol"], ["Sc"]),
  (["sk", "modifiersymbol"], ["Sk"]),
  (["sm", "mathsymbol"], ["Sm"]),
  (["so", "othersymbol"], ["So"]),
  (["z", "separator"], ["Zl", "Zp", "Zs"]),
  (["zl", "lineseparator"], ["Zl"]),
  (["zp", "paragraphseparator"], ["Zp"]),
  (["zs", "spaceseparator"], ["Zs"])]

/-- The characters of a category, a group of categories or a set named beside them, by normalized
name. -/
def category? (name : String) : Option CharSet :=
  if name = "any" then some .all
  else if name = "ascii" then some .ascii
  else if name = "assigned" then some (categoryRuns.select (· = "Cn")).complement
  else categoryNames.findSome? fun (names, codes) =>
    if names.contains name then some (categoryRuns.select codes.contains) else none

end ResponseCheck.Unicode
