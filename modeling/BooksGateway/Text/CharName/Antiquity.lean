/-!
# Names of letters of ancient scripts

The names of the scripts of antiquity and the lesser scripts of Asia. Each row has the first
character and the names from it on, as `BooksGateway.Text.CharName` reads them.
-/

namespace BooksGateway.Text.CharName

/-- The names from U+10000 to U+11FFF, in rows. -/
def antiquity : List (Nat × String) := [
  (0x10000, "aLINEAR B SYLLABLE B008 AdB038 EdB028 IdB061 OdB010 UdB001 DAdB045 DEdB007 DI"),
  (0x10008, "dB014 DOdB051 DUdB057 JAdB046 JE"),
  (0x1000D, "dB036 JOdB065 JUdB077 KAdB044 KEdB067 KIdB070 KOdB081 KUdB080 MAdB013 MEdB073 MI"),
  (0x10017, "dB015 MOdB023 MUdB006 NAdB024 NEdB030 NIdB052 NOdB055 NUdB003 PAdB072 PEdB039 PI"),
  (0x10021, "dB011 POdB050 PUdB016 QAdB078 QEdB021 QIdB032 QO"),
  (0x10028, "dB060 RAdB027 REdB053 RIdB002 ROdB026 RUdB031 SAdB009 SEdB041 SIdB012 SOdB058 SU"),
  (0x10032, "dB059 TAdB004 TEdB037 TIdB005 TOdB069 TUdB054 WAdB075 WEdB040 WIdB042 WO"),
  (0x1003C, "dB017 ZAdB074 ZE"),
  (0x1003F, "dB020 ZOdB025 A2dB043 A3dB085 AUdB071 DWEdB090 DWOdB048 NWAdB029 PU2dB062 PTE"),
  (0x10048, "dB076 RA2dB033 RA3dB068 RO2dB066 TA2dB087 TWEdB091 TWO"),
  (0x10050, "cSYMBOL B018dB019dB022dB034dB047dB049dB056dB063dB064dB079dB082dB083dB086dB089"),
  (0x10080, "cIDEOGRAM B100 MANdB102 WOMANdB104 DEERdB105 EQUIDdB105F MAREdB105M STALLION"),
  (0x10086, "dB106F EWEdB106M RAMdB107F SHE-GOATdB107M HE-GOATdB108F SOWdB108M BOARdB109F COW"),
  (0x1008D, "dB109M BULLdB120 WHEATdB121 BARLEYdB122 OLIVEdB123 SPICEdB125 CYPERUS"),
  (0x10093, "cMONOGRAM B127 KAPOdB128 KANAKOcIDEOGRAM B130 OILdB131 WINEdB132cMONOGRAM B133 AREPA"),
  (0x10099, "dB135 MERIcIDEOGRAM B140 BRONZEdB141 GOLDdB142dB145 WOOLdB146dB150dB151 HORNdB152"),
  (0x100A2, "dB153dB154cMONOGRAM B156 TURO2cIDEOGRAM B157dB158dB159 CLOTHdB160dB161dB162 GARMENT"),
  (0x100AB, "dB163 ARMOURdB164dB165dB166dB167dB168dB169dB170dB171dB172dB173 MONTHdB174dB176 TREE"),
  (0x100B8, "dB177dB178dB179dB180dB181dB182dB183dB184dB185dB189dB190dB191 HELMETdB220 FOOTSTOOL"),
  (0x100C5, "dB225 BATHTUBdB230 SPEARdB231 ARROWdB232dB233 SWORDdB234dB236dB240 WHEELED CHARIOT"),
  (0x100CD, "dB241ndB242 CHARIOT FRAMEdB243 WHEELdB245dB246cMONOGRAM B247 DIPTEcIDEOGRAM B248"),
  (0x100D4, "dB249dB251dB252dB253dB254 DARTdB255dB256dB257dB258dB259dVESSEL B155eB200eB201eB202"),
  (0x100E2, "eB203eB204eB205eB206eB207eB208eB209eB210eB211eB212eB213eB214eB215eB216eB217eB218"),
  (0x100F2, "eB219eB221eB222eB226eB227eB228eB229eB250eB305"),
  (0x10100, "aAEGEAN WORD SEPARATOR LINEdDOTbCHECK MARK"),
  (0x10107, "bNUMBER ONEcTWOcTHREEcFOURcFIVEcSIXcSEVENcEIGHTcNINEcTENcTWENTYcTHIRTYcFORTYcFIFTY"),
  (0x10115, "cSIXTYcSEVENTYcEIGHTYcNINETYcONE HUNDREDcTWOncTHREEncFOURncFIVEncSIXncSEVENncEIGHTn"),
  (0x10121, "cNINEncONE THOUSANDcTWOncTHREEncFOURncFIVEncSIXncSEVENncEIGHTncNINEncTENncTWENTYn"),
  (0x1012D, "cTHIRTYncFORTYncFIFTYncSIXTYncSEVENTYncEIGHTYncNINETYn"),
  (0x10137, "bWEIGHT BASE UNITcFIRST SUBUNITcSECONDncTHIRDncFOURTHnbDRY MEASURE FIRSTnbLIQUIDp"),
  (0x1013E, "bMEASURE SECONDncTHIRDnaGREEK ACROPHONIC ATTIC ONE QUARTEReHALFeDRACHMAdFIVEdFIFTY"),
  (0x10145, "dFIVE HUNDREDeTHOUSANDdFIFTYndFIVE TALENTSdTENndFIFTYndONE HUNDREDndFIVEo"),
  (0x1014D, "dONE THOUSANDndFIVEoeSTATERSdTENndFIFTYndONE HUNDREDndFIVEodONE THOUSANDndTENo"),
  (0x10156, "dFIFTYodTEN MNAScHERAEUM ONE PLETHRONcTHESPIAN ONEcHERMIONIANncEPIDAUREAN TWO"),
  (0x1015C, "cTHESPIANncCYRENAIC TWO DRACHMAScEPIDAUREANocTROEZENIAN FIVEdTENeALTERNATE FORM"),
  (0x10162, "cHERMIONIAN TENcMESSENIANncTHESPIANndTHIRTYcTROEZENIAN FIFTYeALTERNATE FORM"),
  (0x10168, "cHERMIONIAN FIFTYcTHESPIANndONE HUNDREDdTHREEncEPIDAUREAN FIVEncTROEZENIANo"),
  (0x1016E, "cTHESPIANocCARYSTIANocNAXIANocTHESPIAN ONE THOUSANDdFIVEncDELPHIC FIVE MNAS"),
  (0x10174, "cSTRATIAN FIFTYnbONE HALF SIGNeALTERNATE FORMbTWO THIRDS SIGNbTHREE QUARTERSnbYEARn"),
  (0x1017A, "bTALENTnbDRACHMAnbOBOLnbTWO OBOLSnbTHREEobFOURobFIVEobMETRETESnbKYATHOS BASEnbLITRAn"),
  (0x10184, "bOUNKIAnbXESTESnbARTABEnbAROURAnbGRAMMAnbTRYBLION BASEnbZEROnbONE QUARTERnbSINUSOIDn"),
  (0x1018D, "bINDICTIONnaNOMISMAn"),
  (0x10190, "aROMAN SEXTANSnbUNCIAnbSEMUNCIAnbSEXTULAnbDIMIDIAobSILIQUAnbDENARIUSnbQUINARIUSn"),
  (0x10198, "bSESTERTIUSnbDUPONDIUSnbASnbCENTURIALnaASCIA SYMBOL"),
  (0x101A0, "aGREEK SYMBOL TAU RHO"),
  (0x101D0, "aPHAISTOS DISC SIGN PEDESTRIANdPLUMED HEADdTATTOOEDndCAPTIVEdCHILDdWOMANdHELMET"),
  (0x101D7, "dGAUNTLETdTIARAdARROWdBOWdSHIELDdCLUBdMANACLESdMATTOCKdSAWdLIDdBOOMERANG"),
  (0x101E2, "dCARPENTRY PLANEdDOLIUMdCOMBdSLINGdCOLUMNdBEEHIVEdSHIPdHORNdHIDEdBULLS LEGdCATdRAM"),
  (0x101EE, "dEAGLEdDOVEdTUNNYdBEEdPLANE TREEdVINEdPAPYRUSdROSETTEdLILYdOX BACKdFLUTEdGRATER"),
  (0x101FA, "dSTRAINERdSMALL AXEdWAVY BANDdCOMBINING OBLIQUE STROKE"),
  (0x10280, "aLYCIAN LETTER AcEcBcBHcGcDcIcWcZcTHcJcKcQcLcMcNcMMcNNcUcPcKKcRcScTcTTcANcENcHcX"),
  (0x102A0, "aCARIAN LETTER AcP2cDcLcUUUcRcLDcA2cQcBcMcOcD2cTcSHcSH2cScC-18cUcNNcXcNcTT2cPcSScIcE"),
  (0x102BB, "cUUUUcKcK2cNDcUUcGcG2cSTcST2cNGcIIcC-39cTTcUUU2cRRcMBcMB2cMB3cMB4cLD2cE2cUUU3"),
  (0x102E0, "aCOPTIC EPACT THOUSANDS MARKcDIGIT ONEdTWOdTHREEdFOURdFIVEdSIXdSEVENdEIGHTdNINE"),
  (0x102EA, "cNUMBER TENdTWENTYdTHIRTYdFORTYdFIFTYdSIXTYdSEVENTYdEIGHTYdNINETYdONE HUNDREDdTWOn"),
  (0x102F5, "dTHREEndFOURndFIVEndSIXndSEVENndEIGHTndNINEn"),
  (0x10300, "aOLD ITALIC LETTER AdBEdKEdDEdEdVEdZEdHEdTHEdIdKAdELdEMdENdESHdOdPEdSHEdKUdERdESdTE"),
  (0x10316, "dUdEKSdPHEdKHEdEFdERSdCHEdIIdUUdESScNUMERAL ONEdFIVEdTENdFIFTY"),
  (0x1032D, "cLETTER YEdNORTHERN TSEdSOUTHERNnaGOTHIC LETTER AHSAcBAIRKANcGIBAcDAGScAIHVUS"),
  (0x10335, "cQAIRTHRAcIUJAcHAGLcTHIUTHcEIScKUSMAcLAGUScMANNAcNAUTHScJERcURUScPAIRTHRAcNINETY"),
  (0x10342, "cRAIDAcSAUILcTEIWScWINJAcFAIHUcIGGWScHWAIRcOTHALcNINE HUNDRED"),
  (0x10350, "aOLD PERMIC LETTER ANdBURdGAIdDOIdEdZHOIdDZHOIdZATAdDZITAdIdKOKEdLEIdMENOEdNENOE"),
  (0x1035E, "dVOOIdPEEIdREIdSIIdTAIdUdCHERYdSHOOIdSHCHOOIdYRYdYERUdOdOOdEFdHAdTSIUdVERdYERdYERI"),
  (0x10371, "dYATdIEdYUdYAdIAaCOMBINING OLD PERMIC LETTER ANeDOIeZATAeNENOEeSII"),
  (0x10380, "aUGARITIC LETTER ALPAcBETAcGAMLAcKHAcDELTAcHOcWOcZETAcHOTAcTETcYODcKAFcSHINcLAMDA"),
  (0x1038E, "cMEMcDHALcNUNcZUcSAMKAcAINcPUcSADEcQOPAcRASHAcTHANNAcGHAINcTOcIcUcSSU"),
  (0x1039F, "bWORD DIVIDERaOLD PERSIAN SIGN AdIdUdKAdKUdGAdGUdXAdCAdJAdJIdTAdTUdDAdDIdDUdTHAdPA"),
  (0x103B2, "dBAdFAdNAdNUdMAdMIdMUdYAdVAdVIdRAdRUdLAdSAdZAdSHAdSSAdHA"),
  (0x103C8, "dAURAMAZDAAdAURAMAZDAA-2dAURAMAZDAAHAdXSHAAYATHIYAdDAHYAAUSHdDAHYAAUSH-2dBAGA"),
  (0x103CF, "dBUUMISHcWORD DIVIDERcNUMBER ONEdTWOdTENdTWENTYdHUNDRED"),
  (0x10400, "aDESERET CAPITAL LETTER LONG IeEeAeAHeOeOOdSHORT IeEeAeAHeOeOOdAYdOWdWUdYEEdHdPEE"),
  (0x10412, "dBEEdTEEdDEEdCHEEdJEEdKAYdGAYdEFdVEEdETHdTHEEdESdZEEdESHdZHEEdERdELdEMdENdENGdOIdEW"),
  (0x10428, "bSMALL LETTER LONG IeEeAeAHeOeOOdSHORT IeEeAeAHeOeOOdAYdOWdWUdYEEdHdPEEdBEEdTEEdDEE"),
  (0x1043D, "dCHEEdJEEdKAYdGAYdEFdVEEdETHdTHEEdESdZEEdESHdZHEEdERdELdEMdENdENGdOIdEW"),
  (0x10450, "aSHAVIAN LETTER PEEPcTOTcKICKcFEEcTHIGHcSOcSUREcCHURCHcYEAcHUNGcBIBcDEADcGAGcVOW"),
  (0x1045E, "cTHEYcZOOcMEASUREcJUDGEcWOEcHA-HAcLOLLcMIMEcIFcEGGcASHcADOcONcWOOLcOUTcAHcROARcNUN"),
  (0x10470, "cEATcAGEcICEcUPcOAKcOOZEcOILcAWEcAREcORcAIRcERRcARRAYcEARcIANcYEW"),
  (0x10480, "aOSMANYA LETTER ALEFcBAcTAcJAcXAcKHAcDEELcRAcSAcSHIINcDHAcCAYNcGAcFAcQAAFcKAAFcLAAN"),
  (0x10491, "cMIINcNUUNcWAWcHAcYAcAcEcIcOcUcAAcEEcOO"),
  (0x104A0, "bDIGIT ZEROcONEcTWOcTHREEcFOURcFIVEcSIXcSEVENcEIGHTcNINE"),
  (0x104B0, "aOSAGE CAPITAL LETTER AdAIdAINdAHdBRAdCHAdEHCHAdEdEINdHAdHYAdIdKAdEHKAdKYAdLAdMAdNA"),
  (0x104C2, "dOdOINdPAdEHPAdSAdSHAdTAdEHTAdTSAdEHTSAdTSHAdDHAdUdWAdKHAdGHAdZAdZHA"),
  (0x104D8, "bSMALL LETTER AdAIdAINdAHdBRAdCHAdEHCHAdEdEINdHAdHYAdIdKAdEHKAdKYAdLAdMAdNAdOdOINdPA"),
  (0x104ED, "dEHPAdSAdSHAdTAdEHTAdTSAdEHTSAdTSHAdDHAdUdWAdKHAdGHAdZAdZHA"),
  (0x10500, "aELBASAN LETTER AcBEcCEcCHEcDEcNDEcDHEcEIcEcFEcGEcGJEcHEcIcJEcKEcLEcLLEcMEcNEcNAcNJE"),
  (0x10516, "cOcPEcQEcREcRREcSEcSHEcTEcTHEcUcVEcXEcYcZEcZHEcGHEcGHAMMAcKHE"),
  (0x10530, "aCAUCASIAN ALBANIAN LETTER ALTdBETdGIMdDATdEBdZARLdEYNdZHILdTASdCHAdYOWDdZHAdIRBdSHA"),
  (0x1053E, "dLANdINYAdXEYNdDYANdCARdJHOXdKARdLYITdHEYTdQAYdAORdCHOYdCHIdCYAYdMAQdQARdNOWCdDZYAY"),
  (0x10550, "dSHAKdJAYNdONdTYAYdFAMdDZAYdCHATdPENdGHEYSdRATdSEYKdVEYZdTIWRdSHOYdIWNdCYAWdCAYN"),
  (0x10561, "dYAYDdPIWRdKIW"),
  (0x1056F, "cCITATION MARKaVITHKUQI CAPITAL LETTER AdBBEdBEdCEdCHEdDEdDHEdEIdEdFEdGA"),
  (0x1057C, "dHAdHHAdIdIJEdJEdKAdLAdLLAdMEdNEdNJEdOdPEdQAdRE"),
  (0x1058C, "dSEdSHEdTEdTHEdUdVEdXE"),
  (0x10594, "dYdZE"),
  (0x10597, "bSMALL LETTER AdBBEdBEdCEdCHEdDEdDHEdEIdEdFEdGA"),
  (0x105A3, "dHAdHHAdIdIJEdJEdKAdLAdLLAdMEdNEdNJEdOdPEdQAdRE"),
  (0x105B3, "dSEdSHEdTEdTHEdUdVEdXE"),
  (0x105BB, "dYdZE"),
  (0x10600, "aLINEAR A SIGN AB001dAB002dAB003dAB004dAB005dAB006dAB007dAB008dAB009dAB010dAB011"),
  (0x1060B, "dAB013dAB016dAB017dAB020dAB021dAB021FdAB021MdAB022dAB022FdAB022MdAB023dAB023MdAB024"),
  (0x10618, "dAB026dAB027dAB028dA028BdAB029dAB030dAB031dAB034dAB037dAB038dAB039dAB040dAB041dAB044"),
  (0x10626, "dAB045dAB046dAB047dAB048dAB049dAB050dAB051dAB053dAB054dAB055dAB056dAB057dAB058dAB059"),
  (0x10634, "dAB060dAB061dAB065dAB066dAB067dAB069dAB070dAB073dAB074dAB076dAB077dAB078dAB079dAB080"),
  (0x10642, "dAB081dAB082dAB085dAB086dAB087dA100-102dAB118dAB120dA120BdAB122dAB123dAB131AdAB131B"),
  (0x1064F, "dA131CdAB164dAB171dAB180dAB188dAB191dA301dA302dA303dA304dA305dA306dA307dA308dA309A"),
  (0x1065E, "dA309BdA309CdA310dA311dA312dA313AdA313BdA313CdA314dA315dA316dA317dA318dA319dA320"),
  (0x1066D, "dA321dA322dA323dA324dA325dA326dA327dA328dA329dA330dA331dA332dA333dA334dA335dA336"),
  (0x1067D, "dA337dA338dA339dA340dA341dA342dA343dA344dA345dA346dA347dA348dA349dA350dA351dA352"),
  (0x1068D, "dA353dA354dA355dA356dA357dA358dA359dA360dA361dA362dA363dA364dA365dA366dA367dA368"),
  (0x1069D, "dA369dA370dA371dA400-VASdA401-VASdA402-VASdA403-VASdA404-VASdA405-VASdA406-VAS"),
  (0x106A7, "dA407-VASdA408-VASdA409-VASdA410-VASdA411-VASdA412-VASdA413-VASdA414-VASdA415-VAS"),
  (0x106B0, "dA416-VASdA417-VASdA418-VASdA501dA502dA503dA504dA505dA506dA508dA509dA510dA511dA512"),
  (0x106BE, "dA513dA515dA516dA520dA521dA523dA524dA525dA526dA527dA528dA529dA530dA531dA532dA534"),
  (0x106CE, "dA535dA536dA537dA538dA539dA540dA541dA542dA545dA547dA548dA549dA550dA551dA552dA553"),
  (0x106DE, "dA554dA555dA556dA557dA559dA563dA564dA565dA566dA568dA569dA570dA571dA572dA573dA574"),
  (0x106EE, "dA575dA576dA577dA578dA579dA580dA581dA582dA583dA584dA585dA586dA587dA588dA589dA591"),
  (0x106FE, "dA592dA594dA595dA596dA598dA600dA601dA602dA603dA604dA606dA608dA609dA610dA611dA612"),
  (0x1070E, "dA613dA614dA615dA616dA617dA618dA619dA620dA621dA622dA623dA624dA626dA627dA628dA629"),
  (0x1071E, "dA634dA637dA638dA640dA642dA643dA644dA645dA646dA648dA649dA651dA652dA653dA654dA655"),
  (0x1072E, "dA656dA657dA658dA659dA660dA661dA662dA663dA664"),
  (0x10740, "dA701 AdA702 BdA703 DdA704 EdA705 FdA706 HdA707 JdA708 KdA709 LdA709-2 L2dA709-3 L3"),
  (0x1074B, "dA709-4 L4dA709-6 L6dA710 WdA711 XdA712 YdA713 OMEGAdA714 ABBdA715 BBdA717 DD"),
  (0x10754, "dA726 EYYYdA732 JE"),
  (0x10760, "dA800dA801dA802dA803dA804dA805dA806dA807"),
  (0x10780, "aMODIFIER LETTER SMALL CAPITAL AAcSUPERSCRIPT TRIANGULAR COLONdHALFocSMALL AE"),
  (0x10784, "dCAPITAL BdB WITH HOOK"),
  (0x10787, "dDZ DIGRAPHfWITH RETROFLEX HOOKgCURLdDEZH DIGRAPHdD WITH TAILfHOOKgAND TAIL"),
  (0x1078E, "dREVERSED EdCLOSED REVERSED OPENndFENG DIGRAPHdRAMS HORNdCAPITAL GdG WITH HOOK"),
  (0x10794, "dCAPITALpdH WITH STROKEdCAPITAL HdHENG WITH HOOKdDOTLESS J WITH STROKE ANDn"),
  (0x10799, "dLS DIGRAPHdLZndL WITH BELTdCAPITALpdL WITH RETROFLEX HOOK ANDndLEZH"),
  (0x1079F, "eWITH RETROFLEX HOOKdTURNED YfWITH BELTdO WITH STROKEdCAPITAL OEdCLOSED OMEGAdQ"),
  (0x107A6, "dTURNED R WITH LONG LEGiAND RETROFLEX HOOKdR WITH TAILfFISHHOOKdCAPITAL R"),
  (0x107AB, "dTC DIGRAPH WITH CURLdTS DIGRAPHfWITH RETROFLEX HOOKdTESH DIGRAPH"),
  (0x107AF, "dT WITH RETROFLEX HOOKdV WITH RIGHTn"),
  (0x107B2, "dCAPITAL YcGLOTTAL STOP WITH STROKEcREVERSEDqcBILABIAL CLICKcDENTALncLATERALn"),
  (0x107B8, "cALVEOLARncRETROFLEX CLICK WITH RETROFLEX HOOKcSMALL S WITH CURL"),
  (0x10800, "aCYPRIOT SYLLABLE AcEcIcOcUcJA"),
  (0x10808, "cJO"),
  (0x1080A, "cKAcKEcKIcKOcKUcLAcLEcLIcLOcLUcMAcMEcMIcMOcMUcNAcNEcNIcNOcNUcPAcPEcPIcPOcPUcRAcREcRI"),
  (0x10826, "cROcRUcSAcSEcSIcSOcSUcTAcTEcTIcTOcTUcWAcWEcWIcWO"),
  (0x10837, "cXAcXE"),
  (0x1083C, "cZA"),
  (0x1083F, "cZOaIMPERIAL ARAMAIC LETTER ALEPHdBETHdGIMELdDALETHdHEdWAWdZAYINdHETHdTETHdYODHdKAPH"),
  (0x1084B, "dLAMEDHdMEMdNUNdSAMEKHdAYINdPEdSADHEdQOPHdRESHdSHINdTAW"),
  (0x10857, "cSECTION SIGNcNUMBER ONEdTWOdTHREEdTENdTWENTYdONE HUNDREDeTHOUSANDdTENn"),
  (0x10860, "aPALMYRENE LETTER ALEPHcBETHcGIMELcDALETHcHEcWAWcZAYINcHETHcTETHcYODHcKAPHcLAMEDH"),
  (0x1086C, "cMEMcFINAL NUNcncSAMEKHcAYINcPEcSADHEcQOPHcRESHcSHINcTAWbLEFT-POINTING FLEURON"),
  (0x10878, "bRIGHT-POINTINGnbNUMBER ONEcTWOcTHREEcFOURcFIVEcTENcTWENTY"),
  (0x10880, "aNABATAEAN LETTER FINAL ALEPHcncFINAL BETHcncGIMELcDALETHcFINAL HEcncWAWcZAYINcHETH"),
  (0x1088B, "cTETHcFINAL YODHcncFINAL KAPHcncFINAL LAMEDHcncFINAL MEMcncFINAL NUNcncSAMEKHcAYIN"),
  (0x10898, "cPEcSADHEcQOPHcRESHcFINAL SHINcncTAW"),
  (0x108A7, "bNUMBER ONEcTWOcTHREEcFOURbCRUCIFORMobNUMBER FIVEcTENcTWENTYcONE HUNDRED"),
  (0x108E0, "aHATRAN LETTER ALEPHcBETHcGIMELcDALETH-RESHcHEcWAWcZAYNcHETHcTETHcYODHcKAPHcLAMEDH"),
  (0x108EC, "cMEMcNUNcSAMEKHcAYNcPEcSADHEcQOPH"),
  (0x108F4, "cSHINcTAW"),
  (0x108FB, "bNUMBER ONEcFIVEcTENcTWENTYcONE HUNDREDaPHOENICIAN LETTER ALFcBETcGAMLcDELTcHEcWAU"),
  (0x10906, "cZAIcHETcTETcYODcKAFcLAMDcMEMcNUNcSEMKcAINcPEcSADEcQOFcROSHcSHINcTAUbNUMBER ONEcTEN"),
  (0x10918, "cTWENTYcONE HUNDREDcTWOcTHREE"),
  (0x1091F, "bWORD SEPARATORaLYDIAN LETTER AcBcGcDcEcVcIcYcKcLcMcNcOcRcSScTcUcFcQcScTTcANcENcLY"),
  (0x10938, "cNNcC"),
  (0x1093F, "bTRIANGULAR MARK"),
  (0x10980, "aMEROITIC HIEROGLYPHIC LETTER AdEdIdOdYAdWAdBAdBA-2dPAdMAdNAdNA-2dNEdNE-2dRAdRA-2dLA"),
  (0x10991, "dKHAdHHAdSAdSA-2dSEdKAdQAdTAdTA-2dTEdTE-2dTOdDAcSYMBOL VIDJdVIDJ-2bCURSIVE LETTER A"),
  (0x109A1, "dEdIdOdYAdWAdBAdPAdMAdNAdNEdRAdLAdKHAdHHAdSAdARCHAICndSEdKAdQAdTAdTEdTOdDA"),
  (0x109BC, "cFRACTION ELEVEN TWELFTHSdONE HALFcLOGOGRAM RMTdIMNcNUMBER ONEdTWOdTHREEdFOURdFIVE"),
  (0x109C5, "dSIXdSEVENdEIGHTdNINEdTENdTWENTYdTHIRTYdFORTYdFIFTYdSIXTYdSEVENTY"),
  (0x109D2, "dONE HUNDREDdTWOndTHREEndFOURndFIVEndSIXndSEVENndEIGHTndNINEndONE THOUSANDdTWOn"),
  (0x109DD, "dTHREEndFOURndFIVEndSIXndSEVENndEIGHTndNINEndTENndTWENTYndTHIRTYndFORTYndFIFTYn"),
  (0x109E9, "dSIXTYndSEVENTYndEIGHTYndNINETYndONE HUNDREDndTWOodTHREEodFOURodFIVEodSIXodSEVENo"),
  (0x109F4, "dEIGHTodNINEocFRACTION ONE TWELFTHdTWO TWELFTHSdTHREEndFOURndFIVEndSIXndSEVENn"),
  (0x109FD, "dEIGHTndNINEndTENnaKHAROSHTHI LETTER AbVOWEL SIGN IdUdVOCALIC R"),
  (0x10A05, "dEdO"),
  (0x10A0C, "cLENGTH MARKbSIGN DOUBLE RING BELOWcANUSVARAcVISARGAbLETTER KAcKHAcGAcGHA"),
  (0x10A15, "cCAcCHAcJA"),
  (0x10A19, "cNYAcTTAcTTHAcDDAcDDHAcNNAcTAcTHAcDAcDHAcNAcPAcPHAcBAcBHAcMAcYAcRAcLAcVAcSHAcSSAcSA"),
  (0x10A30, "cZAcHAcKKAcTTTHAcTTTAcVHA"),
  (0x10A38, "bSIGN BAR ABOVEcCAUDAcDOT BELOW"),
  (0x10A3F, "bVIRAMAbDIGIT ONEcTWOcTHREEcFOURbNUMBER TENcTWENTYcONE HUNDREDdTHOUSAND"),
  (0x10A48, "bFRACTION ONE HALF"),
  (0x10A50, "bPUNCTUATION DOTcSMALL CIRCLEcncCRESCENT BARcMANGALAMcLOTUScDANDAcDOUBLEncLINES"),
  (0x10A60, "aOLD SOUTH ARABIAN LETTER HEeLAMEDHeHETHeMEMeQOPHeWAWeSHINeRESHeBETHeTAWeSATeKAPH"),
  (0x10A6C, "eNUNeKHETHeSADHEeSAMEKHeFEeALEFeAYNeDHADHEeGIMELeDALETHeGHAYNeTETHeZAYNeDHALETHeYODH"),
  (0x10A7B, "eTHAWeTHETHdNUMBER ONEeFIFTYdNUMERIC INDICATORbNORTH ARABIAN LETTER HEHeLAMeHAHeMEEM"),
  (0x10A84, "eQAFeWAWeES-2eREHeBEHeTEHeES-1eKAFeNOONeKHAHeSADeES-3eFEHeALEFeAINeDADeGEEMeDAL"),
  (0x10A96, "eGHAINeTAHeZAINeTHALeYEHeTHEHeZAHdNUMBER ONEeTENeTWENTY"),
  (0x10AC0, "aMANICHAEAN LETTER ALEPHcBETHcBHETHcGIMELcGHIMELcDALETHcHEcWAWbSIGN UDbLETTER ZAYIN"),
  (0x10ACA, "cZHAYINcJAYINcJHAYINcHETHcTETHcYODHcKAPHcXAPHcKHAPHcLAMEDHcDHAMEDHcTHAMEDHcMEMcNUN"),
  (0x10AD8, "cSAMEKHcAYINcAAYINcPEcFEcSADHEcQOPHcXOPHcQHOPHcRESHcSHINcSSHINcTAW"),
  (0x10AE5, "bABBREVIATION MARK ABOVEdBELOW"),
  (0x10AEB, "bNUMBER ONEcFIVEcTENcTWENTYcONE HUNDREDbPUNCTUATION STARcFLEURON"),
  (0x10AF2, "cDOUBLE DOT WITHIN DOTcpdcTWO DOTScLINE FILLER"),
  (0x10B00, "aAVESTAN LETTER AcAAcAOcAAOcANcAANcAEcAEEcEcEEcOcOOcIcIIcUcUUcKEcXEcXYEcXVEcGEcGGE"),
  (0x10B16, "cGHEcCEcJEcTEcTHEcDEcDHEcTTEcPEcFEcBEcBHEcNGEcNGYEcNGVEcNEcNYEcNNEcMEcHMEcYYEcYEcVE"),
  (0x10B2D, "cREcLEcSEcZEcSHEcZHEcSHYEcSSHEcHE"),
  (0x10B39, "bABBREVIATION MARKaTINY TWO DOTS OVER ONE DOT PUNCTUATIONaSMALLsaLARGEs"),
  (0x10B3D, "bONE DOT OVER TWO DOTSnbTWO RINGS OVER ONE RINGnbONE RING OVER TWO RINGSn"),
  (0x10B40, "aINSCRIPTIONAL PARTHIAN LETTER ALEPHdBETHdGIMELdDALETHdHEdWAWdZAYINdHETHdTETHdYODH"),
  (0x10B4A, "dKAPHdLAMEDHdMEMdNUNdSAMEKHdAYINdPEdSADHEdQOPHdRESHdSHINdTAW"),
  (0x10B58, "cNUMBER ONEdTWOdTHREEdFOURdTENdTWENTYdONE HUNDREDeTHOUSANDbPAHLAVI LETTER ALEPHdBETH"),
  (0x10B62, "dGIMELdDALETHdHEdWAW-AYIN-RESHdZAYINdHETHdTETHdYODHdKAPHdLAMEDHdMEM-QOPHdNUNdSAMEKH"),
  (0x10B6F, "dPEdSADHEdSHINdTAW"),
  (0x10B78, "cNUMBER ONEdTWOdTHREEdFOURdTENdTWENTYdONE HUNDREDeTHOUSAND"),
  (0x10B80, "aPSALTER PAHLAVI LETTER ALEPHdBETHdGIMELdDALETHdHEdWAW-AYIN-RESHdZAYINdHETHdYODH"),
  (0x10B89, "dKAPHdLAMEDHdMEM-QOPHdNUNdSAMEKHdPEdSADHEdSHINdTAW"),
  (0x10B99, "cSECTION MARKcTURNEDocFOUR DOTS WITH CROSSfDOT"),
  (0x10BA9, "cNUMBER ONEdTWOdTHREEdFOURdTENdTWENTYdONE HUNDRED"),
  (0x10C00, "aOLD TURKIC LETTER ORKHON AdYENISEIneAEdORKHON IdYENISEIneEdORKHON OeOEdYENISEIn"),
  (0x10C09, "dORKHON ABdYENISEIndORKHON AEBdYENISEIndORKHON AGdYENISEIndORKHON AEGdYENISEIn"),
  (0x10C11, "dORKHON ADdYENISEIndORKHON AEDeEZdYENISEIndORKHON AYdYENISEIndORKHON AEYdYENISEIn"),
  (0x10C1A, "dORKHON AEKdYENISEIndORKHON OEKdYENISEIndORKHON ALdYENISEIndORKHON AELeELTeEMeANeAEN"),
  (0x10C25, "dYENISEIndORKHON ENTdYENISEIndORKHON ENCdYENISEIndORKHON ENYdYENISEIneANGdORKHON ENG"),
  (0x10C2E, "dYENISEI AENGdORKHON EPeOPeICeECdYENISEIndORKHON AQdYENISEIndORKHON IQdYENISEIn"),
  (0x10C38, "dORKHON OQdYENISEIndORKHON ARdYENISEIndORKHON AEReASeAESeASHdYENISEIndORKHON ESH"),
  (0x10C42, "dYENISEIndORKHON ATdYENISEIndORKHON AETdYENISEIndORKHON OTeBASH"),
  (0x10C80, "bHUNGARIAN CAPITAL LETTER AeAAeEBeAMBeECeENCeECSeEDeANDeEeCLOSEneEEeEFeEGeEGYeEHeI"),
  (0x10C91, "eIIeEJeEKeAKeUNKeELeELYeEMeENeENYeOeOOeNIKOLSBURG OEeRUDIMENTAneOEEeEPeEMPeEReSHORTn"),
  (0x10CA4, "eESeESZeETeENTeETYeECHeUeUUeNIKOLSBURG UEeRUDIMENTAneEVeEZeEZSeENT-SHAPED SIGNeUS"),
  (0x10CC0, "cSMALL LETTER AeAAeEBeAMBeECeENCeECSeEDeANDeEeCLOSEneEEeEFeEGeEGYeEHeIeIIeEJeEKeAK"),
  (0x10CD5, "eUNKeELeELYeEMeENeENYeOeOOeNIKOLSBURG OEeRUDIMENTAneOEEeEPeEMPeEReSHORTneESeESZeET"),
  (0x10CE7, "eENTeETYeECHeUeUUeNIKOLSBURG UEeRUDIMENTAneEVeEZeEZSeENT-SHAPED SIGNeUS"),
  (0x10CFA, "cNUMBER ONEdFIVEdTENdFIFTYdONE HUNDREDeTHOUSANDaHANIFI ROHINGYA LETTER AdBAdPAdTA"),
  (0x10D04, "dTTAdJAdCAdHAdKHAdFAdDAdDDAdRAdRRAdZAdSAdSHAdKAdGAdLAdMAdNAdWAdKINNAndYAdKINNAndNGA"),
  (0x10D1B, "dNYAdVAcVOWEL AdIdUdEdOcMARK SAKINdNA KHONNAcSIGN HARBAHAYdTAHALAdTANAdTASSI"),
  (0x10D30, "cDIGIT ZEROdONEdTWOdTHREEdFOURdFIVEdSIXdSEVENdEIGHTdNINE"),
  (0x10E60, "aRUMI DIGIT ONEcTWOcTHREEcFOURcFIVEcSIXcSEVENcEIGHTcNINEbNUMBER TENcTWENTYcTHIRTY"),
  (0x10E6C, "cFORTYcFIFTYcSIXTYcSEVENTYcEIGHTYcNINETYcONE HUNDREDcTWOncTHREEncFOURncFIVEncSIXn"),
  (0x10E78, "cSEVENncEIGHTncNINEnbFRACTION ONE HALFdQUARTERdTHIRDcTWO THIRDS"),
  (0x10E80, "aYEZIDI LETTER ELIFcBEcPEcPHEcTHEcSEcCIMcCHIMcCHHIMcHHAcXAcDALcZALcRAcRHAcZAcJAcSIN"),
  (0x10E92, "cSHINcSADcDADcTAcZEcEYNcXHEYNcFAcVAdALTERNATE FORMcQAFcKAFcKHAFcGAFcLAMcMIMcNUNcUM"),
  (0x10EA4, "cWAWcOWcEWcHAYcYOTcET"),
  (0x10EAB, "bCOMBINING HAMZA MARKcMADDAnbHYPHENATIONn"),
  (0x10EB0, "bLETTER LAM WITH DOT ABOVEcYOT WITH CIRCUMFLEXn"),
  (0x10F00, "aOLD SOGDIAN LETTER ALEPHdFINALndBETHdFINALndGIMELdHEdFINALndWAWdZAYINdHETHdYODH"),
  (0x10F0B, "dKAPHdLAMEDHdMEMdNUNdFINALnfWITH VERTICAL TAILdSAMEKHdAYINdALTERNATEndPEdSADHE"),
  (0x10F16, "dFINALnfWITH VERTICAL TAILdRESH-AYIN-DALETHdSHINdTAWdFINALnfWITH VERTICAL TAIL"),
  (0x10F1D, "cNUMBER ONEdTWOdTHREEdFOURdFIVEdTENdTWENTYdTHIRTYdONE HUNDREDcFRACTION ONE HALF"),
  (0x10F27, "cLIGATURE AYIN-DALETH"),
  (0x10F30, "aSOGDIAN LETTER ALEPHcBETHcGIMELcHEcWAWcZAYINcHETHcYODHcKAPHcLAMEDHcMEMcNUNcSAMEKH"),
  (0x10F3D, "cAYINcPEcSADHEcRESH-AYINcSHINcTAWcFETHcLESHbINDEPENDENT SHINbCOMBINING DOT BELOW"),
  (0x10F47, "cTWO DOTSncDOT ABOVEcTWO DOTSncCURVEndBELOWcHOOK ABOVEdBELOWcLONGocRESHncSTROKEn"),
  (0x10F51, "bNUMBER ONEcTENcTWENTYcONE HUNDREDbPUNCTUATION TWO VERTICAL BARSfWITH DOTS"),
  (0x10F57, "cCIRCLE WITH DOTcTWO CIRCLES WITH DOTScHALF CIRCLE WITH DOT"),
  (0x10F70, "aOLD UYGHUR LETTER ALEPHdBETHdGIMEL-HETHdWAWdZAYINdFINAL HETHdYODHdKAPHdLAMEDHdMEM"),
  (0x10F7A, "dNUNdSAMEKHdPEdSADHEdRESHdSHINdTAWdLESHcCOMBINING DOT ABOVEeBELOWdTWO DOTS ABOVE"),
  (0x10F85, "fBELOWcPUNCTUATION BARdTWO BARSeDOTSdFOURn"),
  (0x10FB0, "aCHORASMIAN LETTER ALEPHcSMALLncBETHcGIMELcDALETHcHEcWAWcCURLEDncZAYINcHETHcYODH"),
  (0x10FBB, "cKAPHcLAMEDHcMEMcNUNcSAMEKHcAYINcPEcRESHcSHINcTAWbNUMBER ONEcTWOcTHREEcFOURcTEN"),
  (0x10FCA, "cTWENTYcONE HUNDRED"),
  (0x10FE0, "aELYMAIC LETTER ALEPHcBETHcGIMELcDALETHcHEcWAWcZAYINcHETHcTETHcYODHcKAPHcLAMEDHcMEM"),
  (0x10FED, "cNUNcSAMEKHcAYINcPEcSADHEcQOPHcRESHcSHINcTAWbLIGATURE ZAYIN-YODH"),
  (0x11000, "aBRAHMI SIGN CANDRABINDUcANUSVARAcVISARGAcJIHVAMULIYAcUPADHMANIYAbLETTER AcAAcIcIIcU"),
  (0x1100A, "cUUcVOCALIC RdRRdLdLLcEcAIcOcAUcKAcKHAcGAcGHAcNGAcCAcCHAcJAcJHAcNYAcTTAcTTHAcDDA"),
  (0x11020, "cDDHAcNNAcTAcTHAcDAcDHAcNAcPAcPHAcBAcBHAcMAcYAcRAcLAcVAcSHAcSSAcSAcHAcLLA"),
  (0x11035, "cOLD TAMIL LLLAeRRAeNNNAbVOWEL SIGN AAdBHATTIPROLUndIdIIdUdUUdVOCALIC ReRReLeLLdEdAI"),
  (0x11044, "dOdAUbVIRAMAbDANDAbDOUBLEnbPUNCTUATION DOTcDOUBLEncLINEcCRESCENT BARcLOTUS"),
  (0x11052, "bNUMBER ONEcTWOcTHREEcFOURcFIVEcSIXcSEVENcEIGHTcNINEcTENcTWENTYcTHIRTYcFORTYcFIFTY"),
  (0x11060, "cSIXTYcSEVENTYcEIGHTYcNINETYcONE HUNDREDdTHOUSANDbDIGIT ZEROcONEcTWOcTHREEcFOURcFIVE"),
  (0x1106C, "cSIXcSEVENcEIGHTcNINEbSIGN OLD TAMIL VIRAMAbLETTER OLD TAMIL SHORT EfO"),
  (0x11073, "bVOWEL SIGN OLD TAMIL SHORT EgObLETTER OLD TAMIL LLA"),
  (0x1107F, "bNUMBER JOINERaKAITHI SIGN CANDRABINDUcANUSVARAcVISARGAbLETTER AcAAcIcIIcUcUUcEcAIcO"),
  (0x1108C, "cAUcKAcKHAcGAcGHAcNGAcCAcCHAcJAcJHAcNYAcTTAcTTHAcDDAcDDDHAcDDHAcRHAcNNAcTAcTHAcDA"),
  (0x110A1, "cDHAcNAcPAcPHAcBAcBHAcMAcYAcRAcLAcVAcSHAcSSAcSAcHAbVOWEL SIGN AAdIdIIdUdUUdEdAIdOdAU"),
  (0x110B9, "bSIGN VIRAMAcNUKTAbABBREVIATION SIGNbENUMERATIONnbNUMBERnbSECTION MARKbDOUBLEobDANDA"),
  (0x110C1, "bDOUBLEnbVOWEL SIGN VOCALIC R"),
  (0x110CD, "bNUMBER SIGN ABOVE"),
  (0x110D0, "aSORA SOMPENG LETTER SAHdTAHdBAHdCAHdDAHdGAHdMAHdNGAHdLAHdNAHdVAHdPAHdYAHdRAHdHAH"),
  (0x110DF, "dKAHdJAHdNYAHdAHdEEHdIHdUHdOHdEHdMAE"),
  (0x110F0, "cDIGIT ZEROdONEdTWOdTHREEdFOURdFIVEdSIXdSEVENdEIGHTdNINE"),
  (0x11100, "aCHAKMA SIGN CANDRABINDUcANUSVARAcVISARGAbLETTER AAcIcUcEcKAAcKHAAcGAAcGHAAcNGAAcCAA"),
  (0x1110D, "cCHAAcJAAcJHAAcNYAAcTTAAcTTHAAcDDAAcDDHAAcNNAAcTAAcTHAAcDAAcDHAAcNAAcPAAcPHAAcBAA"),
  (0x1111E, "cBHAAcMAAcYYAAcYAAcRAAcLAAcWAAcSAAcHAAbVOWEL SIGN AdIdIIdUdUUdEdAIdOdAUdOIbO MARK"),
  (0x11132, "bAUnbVIRAMAbMAAYYAA"),
  (0x11136, "bDIGIT ZEROcONEcTWOcTHREEcFOURcFIVEcSIXcSEVENcEIGHTcNINEbSECTION MARKbDANDAbDOUBLEn"),
  (0x11143, "bQUESTION MARKbLETTER LHAAbVOWEL SIGN AAdEIbLETTER VAA"),
  (0x11150, "aMAHAJANI LETTER AcIcUcEcOcKAcKHAcGAcGHAcCAcCHAcJAcJHAcNYAcTTAcTTHAcDDAcDDHAcNNAcTA"),
  (0x11164, "cTHAcDAcDHAcNAcPAcPHAcBAcBHAcMAcRAcLAcVAcSAcHAcRRAbSIGN NUKTAbABBREVIATION SIGN"),
  (0x11175, "bSECTION MARKbLIGATURE SHRI"),
  (0x11180, "aSHARADA SIGN CANDRABINDUcANUSVARAcVISARGAbLETTER AcAAcIcIIcUcUUcVOCALIC RdRRdLdLLcE"),
  (0x1118E, "cAIcOcAUcKAcKHAcGAcGHAcNGAcCAcCHAcJAcJHAcNYAcTTAcTTHAcDDAcDDHAcNNAcTAcTHAcDAcDHAcNA"),
  (0x111A5, "cPAcPHAcBAcBHAcMAcYAcRAcLAcLLAcVAcSHAcSSAcSAcHAbVOWEL SIGN AAdIdIIdUdUUdVOCALIC ReRR"),
  (0x111BA, "eLeLLdEdAIdOdAUbSIGN VIRAMAcAVAGRAHAcJIHVAMULIYAcUPADHMANIYAbOMbDANDAbDOUBLEn"),
  (0x111C7, "bABBREVIATION SIGNbSEPARATORbSANDHI MARKbSIGN NUKTAbVOWEL MODIFIER MARK"),
  (0x111CC, "bEXTRA SHORT VOWELnbSUTRAnbVOWEL SIGN PRISHTHAMATRA EbSIGN INVERTED CANDRABINDU"),
  (0x111D0, "bDIGIT ZEROcONEcTWOcTHREEcFOURcFIVEcSIXcSEVENcEIGHTcNINEbEKAMbSIGN SIDDHAM"),
  (0x111DC, "bHEADSTROKEbCONTINUATION SIGNbSECTION MARK-1cMARK-2"),
  (0x111E1, "aSINHALA ARCHAIC DIGIT ONEdTWOdTHREEdFOURdFIVEdSIXdSEVENdEIGHTdNINEcNUMBER TEN"),
  (0x111EB, "dTWENTYdTHIRTYdFORTYdFIFTYdSIXTYdSEVENTYdEIGHTYdNINETYdONE HUNDREDeTHOUSAND"),
  (0x11200, "aKHOJKI LETTER AcAAcIcUcEcAIcOcAUcKAcKHAcGAcGGAcGHAcNGAcCAcCHAcJAcJJA"),
  (0x11213, "cNYAcTTAcTTHAcDDAcDDHAcNNAcTAcTHAcDAcDDDAcDHAcNAcPAcPHAcBAcBBAcBHAcMAcYAcRAcLAcVAcSA"),
  (0x1122A, "cHAcLLAbVOWEL SIGN AAdIdIIdUdEdAIdOdAUbSIGN ANUSVARAcVIRAMAcNUKTAcSHADDAbDANDA"),
  (0x11239, "bDOUBLEnbWORD SEPARATORbSECTION MARKbDOUBLEobABBREVIATION SIGNbSIGN SUKUN"),
  (0x11280, "aMULTANI LETTER AcIcUcEcKAcKHAcGA"),
  (0x11288, "cGHA"),
  (0x1128A, "cCAcCHAcJAcJJA"),
  (0x1128F, "cNYAcTTAcTTHAcDDAcDDDAcDDHAcNNAcTAcTHAcDAcDHAcNAcPAcPHAcBA"),
  (0x1129F, "cBHAcMAcYAcRAcLAcVAcSAcHAcRRAcRHAbSECTION MARK"),
  (0x112B0, "aKHUDAWADI LETTER AcAAcIcIIcUcUUcEcAIcOcAUcKAcKHAcGAcGGAcGHAcNGAcCAcCHAcJAcJJAcJHA"),
  (0x112C5, "cNYAcTTAcTTHAcDDAcDDDAcRRAcDDHAcNNAcTAcTHAcDAcDHAcNAcPAcPHAcBAcBBAcBHAcMAcYAcRAcLA"),
  (0x112DB, "cVAcSHAcSAcHAbSIGN ANUSVARAbVOWEL SIGN AAdIdIIdUdUUdEdAIdOdAUbSIGN NUKTAcVIRAMA"),
  (0x112F0, "bDIGIT ZEROcONEcTWOcTHREEcFOURcFIVEcSIXcSEVENcEIGHTcNINE"),
  (0x11300, "aGRANTHA SIGN COMBINING ANUSVARA ABOVEcCANDRABINDUcANUSVARAcVISARGA"),
  (0x11305, "bLETTER AcAAcIcIIcUcUUcVOCALIC RdL"),
  (0x1130F, "cEEcAI"),
  (0x11313, "cOOcAUcKAcKHAcGAcGHAcNGAcCAcCHAcJAcJHAcNYAcTTAcTTHAcDDAcDDHAcNNAcTAcTHAcDAcDHAcNA"),
  (0x1132A, "cPAcPHAcBAcBHAcMAcYAcRA"),
  (0x11332, "cLAcLLA"),
  (0x11335, "cVAcSHAcSSAcSAcHA"),
  (0x1133B, "aCOMBINING BINDU BELOWaGRANTHA SIGN NUKTAcAVAGRAHAbVOWEL SIGN AAdIdIIdUdUUdVOCALIC R"),
  (0x11344, "eRR"),
  (0x11347, "dEEdAI"),
  (0x1134B, "dOOdAUbSIGN VIRAMA"),
  (0x11350, "bOM"),
  (0x11357, "bAU LENGTH MARK"),
  (0x1135D, "bSIGN PLUTAbLETTER VEDIC ANUSVARAdDOUBLEncVOCALIC RRdLLbVOWEL SIGN VOCALIC LeLL"),
  (0x11366, "aCOMBINING GRANTHA DIGIT ZEROdONEdTWOdTHREEdFOURdFIVEdSIX"),
  (0x11370, "cLETTER AdKAdNAdVIdPA"),
  (0x11400, "aNEWA LETTER AcAAcIcIIcUcUUcVOCALIC RdRRdLdLLcEcAIcOcAUcKAcKHAcGAcGHAcNGAcNGHAcCA"),
  (0x11415, "cCHAcJAcJHAcNYAcNYHAcTTAcTTHAcDDAcDDHAcNNAcTAcTHAcDAcDHAcNAcNHAcPAcPHAcBAcBHAcMAcMHA"),
  (0x1142B, "cYAcRAcRHAcLAcLHAcWAcSHAcSSAcSAcHAbVOWEL SIGN AAdIdIIdUdUUdVOCALIC ReRReLeLLdEdAIdO"),
  (0x11441, "dAUbSIGN VIRAMAcCANDRABINDUcANUSVARAcVISARGAcNUKTAcAVAGRAHAcFINAL ANUSVARAbOMbSIDDHI"),
  (0x1144B, "bDANDAbDOUBLEnbCOMMAbGAP FILLERbABBREVIATION SIGNbDIGIT ZEROcONEcTWOcTHREEcFOURcFIVE"),
  (0x11456, "cSIXcSEVENcEIGHTcNINEbDOUBLE COMMAbPLACEHOLDER MARK"),
  (0x1145D, "bINSERTION SIGNbSANDHI MARKbLETTER VEDIC ANUSVARAbSIGN JIHVAMULIYAcUPADHMANIYA"),
  (0x11480, "aTIRHUTA ANJIbLETTER AcAAcIcIIcUcUUcVOCALIC RdRRdLdLLcEcAIcOcAUcKAcKHAcGAcGHAcNGAcCA"),
  (0x11495, "cCHAcJAcJHAcNYAcTTAcTTHAcDDAcDDHAcNNAcTAcTHAcDAcDHAcNAcPAcPHAcBAcBHAcMAcYAcRAcLAcVA"),
  (0x114AC, "cSHAcSSAcSAcHAbVOWEL SIGN AAdIdIIdUdUUdVOCALIC ReRReLeLLdEdSHORTndAIdOdSHORTndAU"),
  (0x114BF, "bSIGN CANDRABINDUcANUSVARAcVISARGAcVIRAMAcNUKTAcAVAGRAHAbGVANGbABBREVIATION SIGNbOM"),
  (0x114D0, "bDIGIT ZEROcONEcTWOcTHREEcFOURcFIVEcSIXcSEVENcEIGHTcNINE"),
  (0x11580, "aSIDDHAM LETTER AcAAcIcIIcUcUUcVOCALIC RdRRdLdLLcEcAIcOcAUcKAcKHAcGAcGHAcNGAcCAcCHA"),
  (0x11595, "cJAcJHAcNYAcTTAcTTHAcDDAcDDHAcNNAcTAcTHAcDAcDHAcNAcPAcPHAcBAcBHAcMAcYAcRAcLAcVAcSHA"),
  (0x115AC, "cSSAcSAcHAbVOWEL SIGN AAdIdIIdUdUUdVOCALIC ReRR"),
  (0x115B8, "dEdAIdOdAUbSIGN CANDRABINDUcANUSVARAcVISARGAcVIRAMAcNUKTAcSIDDHAMbDANDAbDOUBLEn"),
  (0x115C4, "bSEPARATOR DOTcBARbREPETITION MARK-1cMARK-2cMARK-3bEND OF TEXT MARK"),
  (0x115CA, "bSECTION MARK WITH TRIDENT AND U-SHAPED ORNAMENTSgDOTTED CRESCENTSeRAYSphDOUBLEn"),
  (0x115CE, "hTRIPLEndDOUBLE RINGfWITH RAYSdWITH DOUBLE CRESCENTSeTRIPLEneQUADRUPLEneSEPTUPLEn"),
  (0x115D5, "eCIRCLES AND RAYSgTWO ENCLOSURESgFOURnbLETTER THREE-CIRCLE ALTERNATE IcTWO-CIRCLEo"),
  (0x115DA, "eIIcALTERNATE UbVOWEL SIGNoeUU"),
  (0x11600, "aMODI LETTER AcAAcIcIIcUcUUcVOCALIC RdRRdLdLLcEcAIcOcAUcKAcKHAcGAcGHAcNGAcCAcCHAcJA"),
  (0x11616, "cJHAcNYAcTTAcTTHAcDDAcDDHAcNNAcTAcTHAcDAcDHAcNAcPAcPHAcBAcBHAcMAcYAcRAcLAcVAcSHAcSSA"),
  (0x1162D, "cSAcHAcLLAbVOWEL SIGN AAdIdIIdUdUUdVOCALIC ReRReLeLLdEdAIdOdAUbSIGN ANUSVARAcVISARGA"),
  (0x1163F, "cVIRAMAcARDHACANDRAbDANDAbDOUBLEnbABBREVIATION SIGNbSIGN HUVA"),
  (0x11650, "bDIGIT ZEROcONEcTWOcTHREEcFOURcFIVEcSIXcSEVENcEIGHTcNINE"),
  (0x11660, "aMONGOLIAN BIRGA WITH ORNAMENTbROTATED BIRGAbDOUBLE BIRGA WITH ORNAMENTbTRIPLEp"),
  (0x11664, "bBIRGA WITH DOUBLEnbROTATED BIRGA WITHneDOUBLEnbINVERTED BIRGAdWITH DOUBLE ORNAMENT"),
  (0x11669, "bSWIRL BIRGAdWITH ORNAMENTeDOUBLEnbTURNEDr"),
  (0x11680, "aTAKRI LETTER AcAAcIcIIcUcUUcEcAIcOcAUcKAcKHAcGAcGHAcNGAcCAcCHAcJAcJHAcNYAcTTAcTTHA"),
  (0x11696, "cDDAcDDHAcNNAcTAcTHAcDAcDHAcNAcPAcPHAcBAcBHAcMAcYAcRAcLAcVAcSHAcSAcHAcRRA"),
  (0x116AB, "bSIGN ANUSVARAcVISARGAbVOWEL SIGN AAdIdIIdUdUUdEdAIdOdAUbSIGN VIRAMAcNUKTA"),
  (0x116B8, "bLETTER ARCHAIC KHAbABBREVIATION SIGN"),
  (0x116C0, "bDIGIT ZEROcONEcTWOcTHREEcFOURcFIVEcSIXcSEVENcEIGHTcNINE"),
  (0x11700, "aAHOM LETTER KAcKHAcNGAcNAcTAcALTERNATEncPAcPHAcBAcMAcJAcCHAcTHAcRAcLAcSAcNYAcHAcA"),
  (0x11713, "cDAcDHAcGAcALTERNATEncGHAcBHAcJHAcALTERNATE BA"),
  (0x1171D, "bCONSONANT SIGN MEDIAL LAeRAeLIGATINGnbVOWEL SIGN AdAAdIdIIdUdUUdEdAWdOdAIdAM"),
  (0x1172B, "bSIGN KILLER"),
  (0x11730, "bDIGIT ZEROcONEcTWOcTHREEcFOURcFIVEcSIXcSEVENcEIGHTcNINEbNUMBER TENcTWENTY"),
  (0x1173C, "bSIGN SMALL SECTIONcncRULAIbSYMBOL VIbLETTER CAcTTAcTTHAcDDAcDDHAcNNAcLLA"),
  (0x11800, "aDOGRA LETTER AcAAcIcIIcUcUUcEcAIcOcAUcKAcKHAcGAcGHAcNGAcCAcCHAcJAcJHAcNYAcTTAcTTHA"),
  (0x11816, "cDDAcDDHAcNNAcTAcTHAcDAcDHAcNAcPAcPHAcBAcBHAcMAcYAcRAcLAcVAcSHAcSSAcSAcHAcRRA"),
  (0x1182C, "bVOWEL SIGN AAdIdIIdUdUUdVOCALIC ReRRdEdAIdOdAUbSIGN ANUSVARAcVISARGAcVIRAMAcNUKTA"),
  (0x1183B, "bABBREVIATION SIGN"),
  (0x118A0, "aWARANG CITI CAPITAL LETTER NGAAeAeWIeYUeYAeYOeIIeUUeEeOeANGeGAeKOeENYeYUJeUCeENN"),
  (0x118B1, "eODDeTTEeNUNGeDAeATeAMeBUePUeHIYOeHOLOeHORReHAReSSUUeSIIeVIYOcSMALL LETTER NGAAeAeWI"),
  (0x118C3, "eYUeYAeYOeIIeUUeEeOeANGeGAeKOeENYeYUJeUCeENNeODDeTTEeNUNGeDAeATeAMeBUePUeHIYOeHOLO"),
  (0x118DB, "eHORReHAReSSUUeSIIeVIYOcDIGIT ZEROdONEdTWOdTHREEdFOURdFIVEdSIXdSEVENdEIGHTdNINE"),
  (0x118EA, "cNUMBER TENdTWENTYdTHIRTYdFORTYdFIFTYdSIXTYdSEVENTYdEIGHTYdNINETY"),
  (0x118FF, "cOMaDIVES AKURU LETTER AdAAdIdIIdUdUUdE"),
  (0x11909, "dO"),
  (0x1190C, "dKAdKHAdGAdGHAdNGAdCAdCHAdJA"),
  (0x11915, "dNYAdTTA"),
  (0x11918, "dDDAdDDHAdNNAdTAdTHAdDAdDHAdNAdPAdPHAdBAdBHAdMAdYAdYYAdRAdLAdVAdSHAdSSAdSAdHAdLLAdZA"),
  (0x11930, "cVOWEL SIGN AAeIeIIeUeUUeE"),
  (0x11937, "eAIeO"),
  (0x1193B, "cSIGN ANUSVARAdCANDRABINDUdHALANTAcVIRAMAcPREFIXED NASAL SIGNcMEDIAL YAcINITIAL RA"),
  (0x11942, "cMEDIALncSIGN NUKTAcDOUBLE DANDAcGAP FILLERcEND OF TEXT MARK"),
  (0x11950, "cDIGIT ZEROdONEdTWOdTHREEdFOURdFIVEdSIXdSEVENdEIGHTdNINE"),
  (0x119A0, "aNANDINAGARI LETTER AcAAcIcIIcUcUUcVOCALIC RdRR"),
  (0x119AA, "cEcAIcOcAUcKAcKHAcGAcGHAcNGAcCAcCHAcJAcJHAcNYAcTTAcTTHAcDDAcDDHAcNNAcTAcTHAcDAcDHA"),
  (0x119C1, "cNAcPAcPHAcBAcBHAcMAcYAcRAcLAcVAcSHAcSSAcSAcHAcLLAcRRAbVOWEL SIGN AAdIdIIdUdUU"),
  (0x119D6, "dVOCALIC ReRR"),
  (0x119DA, "dEdAIdOdAUbSIGN ANUSVARAcVISARGAcVIRAMAcAVAGRAHAcSIDDHAMbHEADSTROKE"),
  (0x119E4, "bVOWEL SIGN PRISHTHAMATRA E"),
  (0x11A00, "aZANABAZAR SQUARE LETTER AcVOWEL SIGN IeUEeUeEeOEeOeAIeAUeREVERSED IdLENGTH MARK"),
  (0x11A0B, "cLETTER KAdKHAdGAdGHAdNGAdCAdCHAdJAdNYAdTTAdTTHAdDDAdDDHAdNNAdTAdTHAdDAdDHAdNAdPA"),
  (0x11A1F, "dPHAdBAdBHAdMAdTSAdTSHAdDZAdDZHAdZHAdZAd-AdYAdRAdLAdVAdSHAdSSAdSAdHAdKSSA"),
  (0x11A33, "cFINAL CONSONANT MARKcSIGN VIRAMAdCANDRABINDUeWITH ORNAMENTdCANDRAodANUSVARAdVISARGA"),
  (0x11A3A, "cCLUSTER-INITIAL LETTER RAcCLUSTER-FINAL LETTER YAeRAeLAeVAcINITIAL HEAD MARK"),
  (0x11A40, "cCLOSINGocMARK TSHEGdSHADdDOUBLEndLONG TSHEGcINITIAL DOUBLE-LINED HEAD MARKcCLOSINGp"),
  (0x11A47, "cSUBJOINER"),
  (0x11A50, "aSOYOMBO LETTER AbVOWEL SIGN IdUEdUdEdOdOEdAIdAUdVOCALIC ReLcLENGTH MARKbLETTER KA"),
  (0x11A5D, "cKHAcGAcGHAcNGAcCAcCHAcJAcJHAcNYAcTTAcTTHAcDDAcDDHAcNNAcTAcTHAcDAcDHAcNAcPAcPHAcBA"),
  (0x11A73, "cBHAcMAcTSAcTSHAcDZAcZHAcZAc-AcYAcRAcLAcVAcSHAcSSAcSAcHAcKSSAbSIGN JIHVAMULIYA"),
  (0x11A85, "cUPADHMANIYAbCLUSTER-INITIAL LETTER RAdLAdSHAdSAbFINAL CONSONANT SIGN GeKeNGeDeNeBeM"),
  (0x11A91, "eReLeSHeSe-AbSIGN ANUSVARAcVISARGAbGEMINATION MARKbSUBJOINERbMARK TSHEGcSHADcDOUBLEn"),
  (0x11A9D, "cPLUTAbHEAD MARK WITH MOON AND SUN AND TRIPLE FLAMEinhbTERMINAL MARK-1cMARK-2"),
  (0x11AB0, "aCANADIAN SYLLABICS NATTILIK HIdHIIdHOdHOOdHAdHAAdSHRIdSHRIIdSHROdSHROOdSHRAdSHRAA"),
  (0x11ABC, "cSPEcSPIcSPOcSPAaPAU CIN HAU LETTER PAeKAeLAeMAeDAeZAeVAeNGAeHAeGAeKHAeSAeBAeCAeTA"),
  (0x11ACF, "eTHAeNAePHAeRAeFAeCHAeAeEeIeOeUeUAeIAeFINAL PfKfTfMfNfLfWfNGfYdRISING TONE LONGf"),
  (0x11AE7, "dSANDHI GLOTTAL STOPdRISING TONE LONG FINALfndSANDHI GLOTTAL STOPneTONE LONGf"),
  (0x11AED, "fLONG FINALfndMID-LEVEL TONEdGLOTTAL STOP VARIANTdMID-LEVEL TONE LONG FINALfn"),
  (0x11AF3, "dLOW-FALLING TONE LONGfdGLOTTAL STOPdLOW-FALLING TONE LONG FINALfndGLOTTAL STOPn"),
  (0x11C00, "aBHAIKSUKI LETTER AcAAcIcIIcUcUUcVOCALIC RdRRdL"),
  (0x11C0A, "cEcAIcOcAUcKAcKHAcGAcGHAcNGAcCAcCHAcJAcJHAcNYAcTTAcTTHAcDDAcDDHAcNNAcTAcTHAcDAcDHA"),
  (0x11C21, "cNAcPAcPHAcBAcBHAcMAcYAcRAcLAcVAcSHAcSSAcSAcHAbVOWEL SIGN AAdIdIIdUdUUdVOCALIC ReRR"),
  (0x11C36, "eL"),
  (0x11C38, "dEdAIdOdAUbSIGN CANDRABINDUcANUSVARAcVISARGAcVIRAMAcAVAGRAHAbDANDAbDOUBLEn"),
  (0x11C43, "bWORD SEPARATORbGAP FILLER-1cFILLER-2"),
  (0x11C50, "bDIGIT ZEROcONEcTWOcTHREEcFOURcFIVEcSIXcSEVENcEIGHTcNINEbNUMBER ONEcTWOcTHREEcFOUR"),
  (0x11C5E, "cFIVEcSIXcSEVENcEIGHTcNINEcTENcTWENTYcTHIRTYcFORTYcFIFTYcSIXTYcSEVENTYcEIGHTYcNINETY"),
  (0x11C6C, "bHUNDREDS UNIT MARK"),
  (0x11C70, "aMARCHEN HEADnbMARK SHADbLETTER KAcKHAcGAcNGAcCAcCHAcJAcNYAcTAcTHAcDAcNAcPAcPHAcBA"),
  (0x11C81, "cMAcTSAcTSHAcDZAcWAcZHAcZAc-AcYAcRAcLAcSHAcSAcHAcA"),
  (0x11C92, "bSUBJOINED LETTER KAdKHAdGAdNGAdCAdCHAdJAdNYAdTAdTHAdDAdNAdPAdPHAdBAdMAdTSAdTSHAdDZA"),
  (0x11CA5, "dWAdZHAdZA"),
  (0x11CA9, "dYAdRAdLAdSHAdSAdHAdAbVOWEL SIGN AAdIdUdEdObSIGN ANUSVARAcCANDRABINDU"),
  (0x11D00, "aMASARAM GONDI LETTER AdAAdIdIIdUdUUdE"),
  (0x11D08, "dAIdO"),
  (0x11D0B, "dAUdKAdKHAdGAdGHAdNGAdCAdCHAdJAdJHAdNYAdTTAdTTHAdDDAdDDHAdNNAdTAdTHAdDAdDHAdNAdPA"),
  (0x11D21, "dPHAdBAdBHAdMAdYAdRAdLAdVAdSHAdSSAdSAdHAdLLAdKSSAdJNYAdTRAcVOWEL SIGN AAeIeIIeUeUU"),
  (0x11D36, "eVOCALIC R"),
  (0x11D3A, "eE"),
  (0x11D3C, "eAIeO"),
  (0x11D3F, "eAUcSIGN ANUSVARAdVISARGAdNUKTAdCANDRAdHALANTAcVIRAMAcREPHAcRA-KARA"),
  (0x11D50, "cDIGIT ZEROdONEdTWOdTHREEdFOURdFIVEdSIXdSEVENdEIGHTdNINE"),
  (0x11D60, "aGUNJALA GONDI LETTER AdAAdIdIIdUdUU"),
  (0x11D67, "dEEdAI"),
  (0x11D6A, "dOOdAUdYAdVAdBAdBHAdMAdKAdKHAdTAdTHAdLAdGAdGHAdDAdDHAdNAdCAdCHAdTTAdTTHAdLLAdJAdJHA"),
  (0x11D82, "dDDAdDDHAdNGAdPAdPHAdHAdRAdSAcVOWEL SIGN AAeIeIIeUeUU"),
  (0x11D90, "eEEeAI"),
  (0x11D93, "eOOeAUcSIGN ANUSVARAdVISARGAcVIRAMAcOM"),
  (0x11DA0, "cDIGIT ZEROdONEdTWOdTHREEdFOURdFIVEdSIXdSEVENdEIGHTdNINE"),
  (0x11EE0, "aMAKASAR LETTER KAcGAcNGAcPAcBAcMAcTAcDAcNAcCAcJAcNYAcYAcRAcLAcVAcSAcAbANGKA"),
  (0x11EF3, "bVOWEL SIGN IdUdEdObPASSIMBANGbEND OF SECTION"),
  (0x11FB0, "aLISU LETTER YHA"),
  (0x11FC0, "aTAMIL FRACTION ONE THREE-HUNDRED-AND-TWENTIETHdONE-HUNDRED-AND-SIXTIETHdEIGHTIETH"),
  (0x11FC3, "dSIXTY-FOURTHdFORTIETHdTHIRTY-SECONDcTHREE EIGHTIETHSdSIXTY-FOURTHScONE TWENTIETH"),
  (0x11FC9, "dSIXTEENTH-1dSIXTEENTH-2dTENTHdEIGHTHcTHREE TWENTIETHSdSIXTEENTHScONE FIFTHdQUARTER"),
  (0x11FD1, "dHALF-1dHALF-2cTHREE QUARTERScDOWNSCALING FACTOR KIIZHbSIGN NELcCEVITUcAAZHAAKKU"),
  (0x11FD8, "cUZHAKKUcMUUVUZHAKKUcKURUNIcPATHAKKUcMUKKURUNIcKAACUcPANAMcPONcVARAAKANcPAARAMcKUZHI"),
  (0x11FE3, "cVELIbWET CULTIVATION SIGNbDRYobLANDnbSALT PANnbTRADITIONAL CREDITncNUMBERnbCURRENTn"),
  (0x11FEB, "bAND ODDnbSPENTnbTOTALnbIN POSSESSIONnbSTARTING FROMnbSIGN MUTHALIYAcVAKAIYARAA"),
  (0x11FFF, "bPUNCTUATION END OF TEXTaCUNEIFORM SIGN AdTIMES AeBADeGAN2 TENUeHAeIGIeLAGAR GUNU"),
  (0x12007, "eMUSHeSAGcA2cABdTIMES ASH2eDUN3 GUNUeGALeGAN2 TENUeHAeIGI GUNUeIMINeLAGABeSHESH"),
  (0x12014, "eU PLUS U PLUS UdGUNUcAB2dTIMES BALAGeGAN2 TENUeME PLUS ENeSHA3eTAK4cADcAK"),
  (0x1201E, "dTIMES ERIN2eSHITA PLUS GISHcALdTIMES ALeDIM2eGISHeHAeKAD3eKIeSHEeUSHcALANcALEPH"),
  (0x1202B, "cAMARdTIMES SHEcANdOVER ANdTHREE TIMESdPLUS NAGA OPPOSING AN PLUS NAGAfSQUAREDcANSHE"),
  (0x12033, "cAPINcARADdTIMES KURcARKABcASAL2cASHdZIDA TENUdKABAn"),
  (0x1203B, "dOVER ASH TUG2 OVER TUG2 TUG2 OVER TUG2 PAPfOVER ASHhCROSSING ASH OVER ASH OVER ASH"),
  (0x1203E, "cASH2cASHGABcBAcBADcBAG3cBAHAR2cBALdOVER BALcBALAGcBARcBARA2cBIdTIMES AeGAReIGI GUNU"),
  (0x1204D, "cBUdOVER BU ABfUNdCROSSING BUcBULUGdOVER BULUGcBURcBUR2cDAcDAG"),
  (0x12057, "dKISIM5 TIMES A PLUS MASHfAMARfBALAGfBIfGAgPLUS MASHfGIfGIR2fGUDfHAfIRgPLUS LUfKAK"),
  (0x12064, "fLAfLUgPLUS MASH2fLUMfNEfPAP PLUS PAPfSIfTAK4fU2 PLUS GIR2fUSHcDAMcDARcDARA3cDARA4"),
  (0x12072, "cDIcDIBcDIMdTIMES SHEcDIM2cDINdKASKAL U GUNU DISHcncDUdOVER DUdGUNUdSHESHIGcDUB"),
  (0x1207F, "dTIMES ESH2cDUB2cDUGcDUGUDcDUHcDUNcDUN3dGUNUeGUNUcDUN4cDUR2cEdTIMES PAP"),
  (0x1208C, "dOVER E NUN OVER NUNcE2dTIMES A PLUS HA PLUS DAeGAReMIeSALeSHEeUcEDINcEGIRcELcEN"),
  (0x12098, "dTIMES GAN2fTENUeMEdCROSSING ENdOPPOSINGndSQUAREDcERENcERIN2cESH2cEZENdTIMES A"),
  (0x120A3, "fPLUS LALhTIMES LALeANeBADeDUN3 GUNUgGUNUeHAfGUNUeIGIneKASKALfSQUAREDeKU3eLA"),
  (0x120B0, "eLAL TIMES LALeLIeLUeU2eUDcGAdGUNUcGA2dTIMES A PLUS DA PLUS HAgngIGI"),
  (0x120BB, "eAB2 TENU PLUS TABeANeASHeASH2 PLUS GALeBADeBAR PLUS RAeBURfPLUS RAeDAeDI"),
  (0x120C5, "eDIM TIMES SHEeDUBeELfPLUS LAeENfTIMES GAN2 TENUeoeGAReGIeGI4fPLUS AeGIR2 PLUS SU"),
  (0x120D1, "eHA PLUS LU PLUS ESH2eHALfPLUS LAeHI PLUS LIeHUB2eIGI GUNUeISH PLUS HU PLUS ASHeKAK"),
  (0x120D9, "eKASKALeKIDfPLUS LALeKU3 PLUS ANeLAeME PLUS ENeMIeNUNfOVER NUNePAeSALeSAReSHE"),
  (0x120E6, "fPLUS TUReSHIDeSUMeTAK4eUeUDfPLUS DUdOVER GA2cGABAdCROSSING GABAcGAD"),
  (0x120F1, "dOVER GAD GAR OVER GARcGALdGAD OVER GAD GAR OVER GARcGALAMcGAMcGANcGAN2dTENU"),
  (0x120F9, "dOVER GAN2dCROSSINGncGARcGAR3cGASHANcGESHTINdTIMES KURcGIdTIMES EeUdCROSSING GIcGI4"),
  (0x12105, "dOVER GI4dCROSSINGncGIDIMcGIR2dGUNUcGIR3dTIMES A PLUS IGIeGAN2 TENUeIGIeLU PLUSnePA"),
  (0x12110, "cGISALcGISHdCROSSING GISHdTIMES BADeTAK4dTENUcGUdCROSSING GUcGU2dTIMES KAK"),
  (0x1211A, "fTIMES IGI GUNUeNUNeSAL PLUS TUG2dGUNUcGUDdTIMES A PLUS KURendOVER GUD LUGALcGULcGUM"),
  (0x12124, "dTIMES SHEcGURcGUR7cGURUNcGURUSHcHAdTENUdGUNUcHALcHIdTIMES ASHeASH2eBADeDISHeGADeKIN"),
  (0x12134, "eNUNeSHEeUcHUcHUB2dTIMES ANeHALeKASKALeLISHeUDcHUL2cIdAcIBcIDIMdOVER IDIM BUR"),
  (0x12144, "fSQUAREDcIGcIGIdDIBdRIdOVER IGI SHIR OVER SHIR UD OVER UDdGUNUcILdTIMES GAN2 TENU"),
  (0x1214D, "cIL2cIMdTIMES TAK4dCROSSING IMdOPPOSINGndSQUAREDcIMINcINcIRcISHcKAdTIMES AeAD"),
  (0x1215A, "fPLUS KU3eASH2eBADeBALAGeBAReBIeERIN2eESH2eGAeGALeGAN2 TENUeGARfPLUS SHA3 PLUS AeGI"),
  (0x12168, "eGIR2eGISH PLUS SARfCROSSING GISHeGUeGUR7eIGIeIMeKAKeKIeKIDeLIeLUeMEfPLUS DUgGIgTE"),
  (0x12178, "eMIfPLUS NUNUZeNEeNUNePIeRUeSAeSAReSHAeSHEeSHIDeSHUeSIGeSUHUReTAReUeU2eUD"),
  (0x1218A, "eUMUM TIMES PAeUSHeZIcKA2dCROSSING KA2cKABcKAD2cKAD3cKAD4cKAD5dOVER KAD5cKAK"),
  (0x12196, "dTIMES IGI GUNUcKALdTIMES BADdCROSSING KALcKAM2cKAM4cKASKAL"),
  (0x1219D, "dLAGAB TIMES U OVER LAGAB TIMES UdOVER KASKALtcKESH2cKIdTIMES BADeUeUDcKIDcKINcKISAL"),
  (0x121A7, "cKISHcKISIM5dOVER KISIM5cKUdOVER HI TIMES ASH2 KU OVER HI TIMES ASH2cKU3cKU4"),
  (0x121AE, "dVARIANT FORMcKU7cKULdGUNUcKUNcKURdOPPOSING KURcKUSHU2cKWU318cLAcLAGABdTIMES A"),
  (0x121BA, "fPLUS DA PLUS HAgGARgLALeALeANeASH ZIDA TENUeBADeBIeDAReENeGAeGAReGUDfPLUS GUDeHA"),
  (0x121C9, "eHALeHI TIMES NUNeIGI GUNUeIMfPLUS HAgLUeKIeKINeKU3eKULfPLUS HI PLUS AeLAGABeLISHeLU"),
  (0x121D7, "eLULeMEfPLUS ENeMUSHeNEeSHE PLUS SUMeSHITA PLUS GISH PLUS ERIN2hTENUeSHU2fPLUS SHU2"),
  (0x121E1, "eSUMeTAGeTAK4eTE PLUS A PLUS SU PLUS NAeUfPLUS AgU PLUS UeU2 PLUS ASHeUDeUSHdSQUARED"),
  (0x121EC, "cLAGARdTIMES SHEfPLUS SUMdGUNUeOVER LAGAR GUNU SHEcLAHSHUcLALdTIMES LALcLAM"),
  (0x121F5, "dTIMES KURfPLUS RUcLIcLILcLIMMU2cLISHcLUdTIMES BADcLU2dTIMES ALeBADeESH2fTENUeGAN2n"),
  (0x12203, "eHI TIMES BADeIMeKAD2eKAD3fPLUS ASHeKIeLA PLUS ASHeLAGABeME PLUS ENeNEeNU"),
  (0x1220E, "eSI PLUS ASHeSIK2 PLUS BUeTUG2dTENUdCROSSING LU2dOPPOSINGndSQUAREDdSHESHIGcLU3cLUGAL"),
  (0x12218, "dOVER LUGALdOPPOSINGndSHESHIGcLUHcLULcLUMdOVER LUMfGAR OVER GARcMAdTIMES TAK4dGUNU"),
  (0x12223, "cMA2cMAHcMARcMASHcMASH2cMEcMEScMIcMINcMUdOVER MUcMUGdGUNUcMUNSUBcMURGU2cMUSHdTIMES A"),
  (0x12234, "eKUReZAdOVER MUSHfTIMES A PLUS NAdCROSSING MUSHcMUSH3dTIMES AfPLUS DIendGUNUcNAcNA2"),
  (0x12240, "cNAGAdINVERTEDdTIMES SHU TENUdOPPOSING NAGAcNAGARcNAM NUTILLUdcNAM2cNEdTIMES AeUD"),
  (0x1224B, "dSHESHIGcNIdTIMES EcNI2cNIMdTIMES GAN2 TENUeGAR PLUSocNINDA2dTIMES ANeASHfPLUS ASH"),
  (0x12256, "eGUDeME PLUS GAN2 TENUeNEeNUNeSHEfPLUS A ANgASHhPLUS ASHeU2oeUSHcNISAGcNUcNU11cNUN"),
  (0x12264, "dLAGAR TIMES GARfMASHfSALgOVER NUN LAGAR TIMES SALfUSHdTENUdOVER NUNdCROSSINGn"),
  (0x1226C, "fLAGAR OVER LAGARcNUNUZdAB2 TIMES ASHGABfBIfDUGfGUDfIGI GUNUfKAD3fLAfNEfSILA3fU2"),
  (0x12278, "dKISIM5 TIMES BIgUcPAcPADcPANcPAPcPESH2cPIdTIMES AeABeBIeBUeEeIeIBeUeU2dCROSSING PI"),
  (0x1228A, "cPIRIGdTIMES KALeUDeZAdOPPOSING PIRIGcRAcRABcRIcRUcSAcSAG NUTILLUddTIMES AeDUeDUBeHA"),
  (0x1229A, "eKAKeKUReLUMeMIeNUNeSALeSHIDeTABeU2eUBeUMeUReUSHdOVER SAGdGUNUcSALdLAGAB TIMES ASH2"),
  (0x122AB, "cSANGA2cSARcSHAcSHA3dTIMES AeBADeGISHeNEeSHU2eTUReUfPLUS AcSHA6cSHAB6cSHAR2cSHEdHU"),
  (0x122BC, "dOVER SHE GAD OVER GAD GAR OVER GARfTAB OVER TABpcSHEG9cSHENcSHESHcSHESH2cSHESHLAM"),
  (0x122C3, "cSHIDdTIMES AeIMcSHIMdTIMES AeBALeBULUGeDINeGAReIGIfGUNUeKUSHU2eLULeMUGeSALcSHINIG"),
  (0x122D3, "cSHIRdTENUdOVER SHIR BUR OVER BURcSHITAcSHUdOVER INVERTED SHUcSHU2cSHUBURcSIdGUNU"),
  (0x122DD, "cSIGcSIG4dOVER SIG4 SHU2cSIK2cSILA3cSUdOVER SUcSUDcSUD2cSUHURcSUMcSUMASHcSURcSUR9cTA"),
  (0x122EC, "dASTERISKdTIMES HIeMIdGUNUcTABdOVER TAB NI OVER NI DISH OVER DISHdSQUAREDcTAG"),
  (0x122F4, "dTIMES BIeGUDeSHEeSHUeTUG2eUDcTAK4cTARcTEdGUNUcTIdTENUcTILcTIRdTIMES TAK4dOVER TIR"),
  (0x12304, "fGAD OVER GAD GAR OVER GARcTUcTUG2cTUKcTUMcTURdOVER TUR ZA OVER ZAcUdGUDdU U"),
  (0x1230E, "dOVER U PA OVER PA GAR OVER GARfSUR OVER SURfU REVERSED OVER U REVERSEDcU2cUBcUD"),
  (0x12314, "dKUSHU2dTIMES BADeMIeU PLUS U PLUS UjGUNUdndSHESHIGeTIMES BADcUDUGcUMdTIMES LAGAB"),
  (0x1231F, "eME PLUS DAeSHA3eUcUMBINcUMUMdTIMES KASKALePAcUNdGUNUcURdCROSSING URdSHESHIGcUR2"),
  (0x1232C, "dTIMES A PLUS HAgNAeALeHAeNUNeU2fPLUS ASHgBIcUR4cURIcURI3cURUdTIMES AeASHGABeBAReDUN"),
  (0x1233C, "eGAeGALeGAN2 TENUeGAReGUeHAeIGIeIMeISHeKIeLUMeMINePAeSHEeSIG4eTUeU PLUS GUDeUDeURUDA"),
  (0x1234F, "cndTIMES UcUSHdTIMES AeKUeKUReTAK4cUSHXcUSH2cUSHUMXcUTUKIcUZ3dTIMES KASKALcUZUcZA"),
  (0x1235E, "dTENUdSQUARED TIMES KURcZAGcZAMXcZE2cZIdOVER ZIcZI3cZIBdKABA TENUcZIGcZIZ2cZUcZU5"),
  (0x1236C, "dTIMES AcZUBURcZUMcKAP ELAMITEcAB TIMES NUNcAB2 TIMES AcAMAR TIMES KUG"),
  (0x12373, "cDAG KISIM5 TIMES U2 PLUS MASHcDAG3cDISH PLUS SHUcDUB TIMES SHEcEZEN TIMES GUDeSHE"),
  (0x12379, "cGA2 TIMES AN PLUS KAK PLUS AeASH2cGE22cGIGcHUSHcKA TIMES ANSHEeASH3eGISHeGUD"),
  (0x12382, "eHI TIMES ASH2eLUMePAeSHULeTUeUR2cLAGAB TIMES GIcLU2 SHESHIG TIMES BAD"),
  (0x1238A, "dTIMES ESH2 PLUS LALeSHUcMESHcMUSH3 TIMES ZAcNA4cNINcNIN9cNINDA2 TIMES BALeGI"),
  (0x12393, "cNU11 ROTATED NINETY DEGREEScPESH2 ASTERISKcPIR2cSAG TIMES IGI GUNUcTI2cUM TIMES ME"),
  (0x12399, "cU U")]

end BooksGateway.Text.CharName
